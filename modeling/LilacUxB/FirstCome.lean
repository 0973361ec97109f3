import Mathlib

set_option autoImplicit false

-- Tables in which the first entry for a key stays: an entry is added at the end unless its
-- key is already there.
namespace FirstCome

def enter {Entry Key : Type} [DecidableEq Key] (key : Entry → Key) (table : List Entry) (entry : Entry) : List Entry :=
  if key entry ∈ table.map key then table else table ++ [entry]

def enterOffer {Entry Key : Type} [DecidableEq Key] (key : Entry → Key) (table : List Entry) :
    Option Entry → List Entry
  | none => table
  | some entry => enter key table entry

def settle {Entry Key : Type} [DecidableEq Key] (key : Entry → Key) (offers : List (Option Entry)) : List Entry :=
  offers.foldl (enterOffer key) []

theorem enter_extends {Entry Key : Type} [DecidableEq Key] (key : Entry → Key) (table : List Entry)
    (offer : Option Entry) : table <+: enterOffer key table offer := by
  cases offer with
  | none => exact List.prefix_rfl
  | some entry =>
      by_cases present : key entry ∈ table.map key
      · simp only [enterOffer, enter, if_pos present, List.prefix_rfl]
      · simp only [enterOffer, enter, if_neg present, List.prefix_append]

theorem entered {Entry Key : Type} [DecidableEq Key] (key : Entry → Key) (table : List Entry) (entry : Entry) :
    key entry ∈ (enter key table entry).map key := by
  by_cases present : key entry ∈ table.map key
  · rw [enter, if_pos present]
    exact present
  · rw [enter, if_neg present, List.map_append]
    exact List.mem_append_right _ (List.mem_singleton.mpr rfl)

theorem enter_twice {Entry Key : Type} [DecidableEq Key] (key : Entry → Key) (table : List Entry) (entry : Entry) :
    enter key (enter key table entry) entry = enter key table entry :=
  if_pos (entered key table entry)

theorem keys_distinct {Entry Key : Type} [DecidableEq Key] (key : Entry → Key) (table : List Entry)
    (offer : Option Entry) (distinct : (table.map key).Nodup) : ((enterOffer key table offer).map key).Nodup := by
  cases offer with
  | none => exact distinct
  | some entry =>
      by_cases present : key entry ∈ table.map key
      · simpa only [enterOffer, enter, if_pos present] using distinct
      · rw [enterOffer, enter, if_neg present, List.map_append]
        apply distinct.append (List.nodup_singleton _)
        simpa using present

theorem settle_next {Entry Key : Type} [DecidableEq Key] (key : Entry → Key) (offers : List (Option Entry))
    (offer : Option Entry) : settle key (offers ++ [offer]) = enterOffer key (settle key offers) offer := by
  simp [settle]

theorem settled_extends {Entry Key : Type} [DecidableEq Key] (key : Entry → Key) (offers later : List (Option Entry)) :
    settle key offers <+: settle key (offers ++ later) := by
  induction later using List.reverseRecOn with
  | nil => simp
  | append_singleton earlier offer ih =>
      rw [← List.append_assoc, settle_next]
      exact ih.trans (enter_extends key _ offer)

theorem settled_distinct {Entry Key : Type} [DecidableEq Key] (key : Entry → Key) (offers : List (Option Entry)) :
    ((settle key offers).map key).Nodup := by
  induction offers using List.reverseRecOn with
  | nil => exact List.nodup_nil
  | append_singleton earlier offer ih =>
      rw [settle_next]
      exact keys_distinct key _ offer ih

theorem offer_settled {Entry Key : Type} [DecidableEq Key] (key : Entry → Key) (offers : List (Option Entry))
    (entry : Entry) (offered : some entry ∈ offers) : key entry ∈ (settle key offers).map key := by
  induction offers using List.reverseRecOn with
  | nil => cases offered
  | append_singleton earlier offer ih =>
      rw [settle_next]
      cases List.mem_append.mp offered with
      | inl before => exact (enter_extends key _ offer).map key |>.subset (ih before)
      | inr last =>
          obtain rfl := List.mem_singleton.mp last
          exact entered key _ entry

theorem settled_first {Entry Key : Type} [DecidableEq Key] (key : Entry → Key) (offers : List (Option Entry))
    (entry : Entry) (settled : entry ∈ settle key offers) :
    ∃ index : Nat, offers[index]? = some (some entry) ∧
      ∀ earlier other, earlier < index → offers[earlier]? = some (some other) → key other ≠ key entry := by
  induction offers using List.reverseRecOn with
  | nil => cases settled
  | append_singleton before offer ih =>
      have kept : entry ∈ settle key before →
          ∃ index : Nat, (before ++ [offer])[index]? = some (some entry) ∧
            ∀ earlier other, earlier < index → (before ++ [offer])[earlier]? = some (some other) →
              key other ≠ key entry := by
        intro member
        obtain ⟨index, found, first⟩ := ih member
        have within := (List.getElem?_eq_some_iff.mp found).1
        refine ⟨index, ?_, ?_⟩
        · rwa [List.getElem?_append_left within]
        · intro earlier other sooner at_earlier
          rw [List.getElem?_append_left (Nat.lt_trans sooner within)] at at_earlier
          exact first earlier other sooner at_earlier
      rw [settle_next] at settled
      cases offer with
      | none => exact kept settled
      | some new =>
          by_cases present : key new ∈ (settle key before).map key
          · rw [enterOffer, enter, if_pos present] at settled
            exact kept settled
          · rw [enterOffer, enter, if_neg present] at settled
            cases List.mem_append.mp settled with
            | inl member => exact kept member
            | inr last =>
                obtain rfl := List.mem_singleton.mp last
                refine ⟨before.length, by simp, ?_⟩
                intro earlier other sooner at_earlier same
                rw [List.getElem?_append_left sooner] at at_earlier
                exact present (same ▸ offer_settled key before other (List.mem_of_getElem? at_earlier))

theorem first_settled {Entry Key : Type} [DecidableEq Key] (key : Entry → Key) (offers : List (Option Entry))
    (index : Nat) (entry : Entry) (found : offers[index]? = some (some entry))
    (first : ∀ earlier other, earlier < index → offers[earlier]? = some (some other) → key other ≠ key entry) :
    entry ∈ settle key offers := by
  obtain ⟨kept, settled, same⟩ := List.mem_map.mp (offer_settled key offers entry (List.mem_of_getElem? found))
  obtain ⟨place, offered, earliest⟩ := settled_first key offers kept settled
  rcases Nat.lt_trichotomy place index with sooner | rfl | later
  · exact absurd same (first place kept sooner offered)
  · obtain rfl : kept = entry := Option.some.inj (Option.some.inj (offered.symm.trans found))
    exact settled
  · exact absurd same.symm (earliest index entry later found)

theorem settled_bound {Entry Key : Type} [DecidableEq Key] (key : Entry → Key) (offers : List (Option Entry))
    (keys : List Key) (known : ∀ entry ∈ settle key offers, key entry ∈ keys) :
    (settle key offers).length ≤ keys.length := by
  have within : (settle key offers).map key ⊆ keys := by
    intro found member
    obtain ⟨entry, settled, rfl⟩ := List.mem_map.mp member
    exact known entry settled
  simpa only [List.length_map] using ((settled_distinct key offers).subperm within).length_le

end FirstCome
