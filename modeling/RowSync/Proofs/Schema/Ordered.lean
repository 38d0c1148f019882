import Mathlib.Data.List.Nodup
import Mathlib.Data.String.Basic
import RowSync.Schema.Basic

/-!
Schemas keep their tables in increasing order of their keys, so that a key names one table, and
adding a table leaves those of other keys alone.
-/

set_option autoImplicit false

namespace RowSync.Schema

def Ordered (tables : List Table) : Prop := tables.Pairwise fun t u => t.key < u.key

theorem mem_place {t u : Table} {tables : List Table} (ordered : Ordered tables) :
    u ∈ place t tables ↔ u = t ∨ u ∈ tables ∧ u.key ≠ t.key := by
  induction tables with
  | nil => simp [place]
  | cons v tables ih =>
    obtain ⟨first, rest⟩ := List.pairwise_cons.mp ordered
    rw [place]
    split
    · rename_i before
      -- Nothing is replaced here, as all keys from this one on are greater.
      have later : ∀ w ∈ v :: tables, w.key ≠ t.key := by
        intro w member
        rcases List.mem_cons.mp member with rfl | member
        · exact ne_of_gt before
        · exact ne_of_gt (before.trans (first w member))
      constructor
      · intro member
        rcases List.mem_cons.mp member with rfl | member
        · exact .inl rfl
        · exact .inr ⟨member, later u member⟩
      · rintro (rfl | ⟨member, -⟩)
        · exact List.mem_cons_self
        · exact List.mem_cons_of_mem t member
    · split
      · rename_i same
        have equal : t.key = v.key := by simpa using same
        constructor
        · intro member
          rcases List.mem_cons.mp member with rfl | member
          · exact .inl rfl
          · exact .inr ⟨List.mem_cons_of_mem v member, equal ▸ ne_of_gt (first u member)⟩
        · rintro (rfl | ⟨member, other⟩)
          · exact List.mem_cons_self
          · rcases List.mem_cons.mp member with rfl | member
            · exact absurd equal.symm other
            · exact List.mem_cons_of_mem t member
      · rename_i different
        have apart : v.key ≠ t.key := fun same => different (beq_iff_eq.mpr same.symm)
        rw [List.mem_cons, ih rest, List.mem_cons]
        constructor
        · rintro (rfl | rfl | ⟨member, other⟩)
          · exact .inr ⟨.inl rfl, apart⟩
          · exact .inl rfl
          · exact .inr ⟨.inr member, other⟩
        · rintro (rfl | ⟨rfl | member, other⟩)
          · exact .inr (.inl rfl)
          · exact .inl rfl
          · exact .inr (.inr ⟨member, other⟩)

theorem ordered_place {t : Table} {tables : List Table} (ordered : Ordered tables) :
    Ordered (place t tables) := by
  induction tables with
  | nil => exact List.pairwise_singleton _ t
  | cons v tables ih =>
    obtain ⟨first, rest⟩ := List.pairwise_cons.mp ordered
    rw [place]
    split
    · rename_i before
      refine List.pairwise_cons.mpr ⟨fun w member => ?_, ordered⟩
      rcases List.mem_cons.mp member with rfl | member
      · exact before
      · exact before.trans (first w member)
    · split
      · rename_i same
        have equal : t.key = v.key := by simpa using same
        exact List.pairwise_cons.mpr ⟨fun w member => equal ▸ first w member, rest⟩
      · rename_i notBefore different
        have apart : t.key ≠ v.key := by simpa using different
        have after : v.key < t.key := lt_of_le_of_ne (not_lt.mp notBefore) apart.symm
        refine List.pairwise_cons.mpr ⟨fun w member => ?_, ih rest⟩
        rcases (mem_place rest).mp member with rfl | ⟨member, -⟩
        · exact after
        · exact first w member

theorem nodup_keys {tables : List Table} (ordered : Ordered tables) :
    (tables.map Table.key).Nodup :=
  List.pairwise_map.mpr (ordered.imp fun before => ne_of_lt before)

theorem eq_of_key_eq {t u : Table} {tables : List Table} (ordered : Ordered tables)
    (ht : t ∈ tables) (hu : u ∈ tables) (same : t.key = u.key) : t = u :=
  List.inj_on_of_nodup_map (nodup_keys ordered) ht hu same

theorem find?_eq_some_iff {s : Schema} (ordered : Ordered s.tables) {key : String} {t : Table} :
    s.find? key = some t ↔ t ∈ s.tables ∧ t.key = key := by
  constructor
  · intro found
    exact ⟨List.mem_of_find?_eq_some found, by simpa using List.find?_some found⟩
  · rintro ⟨member, rfl⟩
    cases found : s.find? t.key with
    | none =>
      have absent := List.find?_eq_none.mp found t member
      exact absurd (beq_self_eq_true t.key) absent
    | some u =>
      have same : u.key = t.key := by simpa using List.find?_some found
      rw [eq_of_key_eq ordered (List.mem_of_find?_eq_some found) member same]

end RowSync.Schema
