import Mathlib
import QueryPlan.Proofs.Casting

set_option autoImplicit false

/-! # Compatible types

Two types are compatible if they can be completed, by putting definite types in the places of `any`,
to types that the standard caster treats alike. The harder half is that no two incompatible types
are treated alike: each type has a value of its own that the caster lets pass, and passes for no
definite type but the compatible ones. Compatibility as such is not transitive, because of `any`;
between definite types it is an equivalence. -/

namespace QueryPlan

namespace FieldType

/-! ## Completed types -/

/-- A type that does not mention `any`, inside arrays neither. -/
def Definite : FieldType → Prop
  | any => False
  | array inner => inner.Definite
  | _ => True

/-- The type with another one in the place of every `any`. -/
def fill : FieldType → FieldType → FieldType
  | any, filler => filler
  | array inner, filler => array (inner.fill filler)
  | type, _ => type

theorem definite_id : id.Definite := trivial

theorem definite_fill {filler : FieldType} (h : filler.Definite) (a : FieldType) :
    (a.fill filler).Definite := by
  induction a with
  | any => exact h
  | array inner ih => exact ih
  | binary | boolean | date | decimal | float | id | integer | string | timestamp => trivial

/-! ## Compatibility -/

theorem compatible_refl (a : FieldType) : a.compatible a = true := by
  induction a with
  | array inner ih => rw [array_compatible_array, ih]
  | any | binary | boolean | date | decimal | float | id | integer | string | timestamp => rfl

theorem compatible_comm (a b : FieldType) : a.compatible b = b.compatible a := by
  induction a generalizing b with
  | array inner ih =>
    cases b with
    | array other => rw [array_compatible_array, array_compatible_array, ih]
    | any | binary | boolean | date | decimal | float | id | integer | string | timestamp => rfl
  | any | binary | boolean | date | decimal | float | id | integer | string | timestamp =>
    cases b <;> rfl

theorem exists_fill_any (a : FieldType) :
    ∃ s t : FieldType, s.Definite ∧ t.Definite ∧ (a.fill s).compatible (any.fill t) = true :=
  ⟨id, a.fill id, definite_id, definite_fill definite_id a, compatible_refl _⟩

/-- Where the one type has `any`, it is completed by what the other has in this place. -/
theorem exists_fill_compatible {a b : FieldType} (h : a.compatible b = true) :
    ∃ s t : FieldType, s.Definite ∧ t.Definite ∧ (a.fill s).compatible (b.fill t) = true := by
  induction a generalizing b with
  | any => exact ⟨b.fill id, id, definite_fill definite_id b, definite_id, compatible_refl _⟩
  | array inner ih =>
    cases b with
    | any => exact exists_fill_any _
    | array other =>
      rw [array_compatible_array] at h
      exact ih h
    | binary | boolean | date | decimal | float | id | integer | string | timestamp => cases h
  | binary | boolean | date | decimal | float | id | integer | string | timestamp =>
    cases b with
    | any => exact exists_fill_any _
    | array other => cases h
    | _ => exact ⟨id, id, definite_id, definite_id, h⟩

/-- Completing types makes nothing compatible that was not. -/
theorem compatible_of_fill {a b s t : FieldType} (h : (a.fill s).compatible (b.fill t) = true) :
    a.compatible b = true := by
  induction a generalizing b with
  | any => exact any_compatible b
  | array inner ih =>
    cases b with
    | any => exact compatible_any _
    | array other =>
      rw [array_compatible_array]
      exact ih h
    | binary | boolean | date | decimal | float | id | integer | string | timestamp => exact h
  | binary | boolean | date | decimal | float | id | integer | string | timestamp =>
    cases b with
    | any => rfl
    | _ => exact h

/-! ## Types that are cast alike -/

/-- Identifiers are cast like integers. -/
theorem standardCast_id : Caster.standardCast id = Caster.standardCast integer := by
  funext value
  cases value <;> rfl

theorem standardCast_eq_of_compatible {a b : FieldType} (ha : a.Definite) (hb : b.Definite)
    (h : a.compatible b = true) : Caster.standardCast a = Caster.standardCast b := by
  induction a generalizing b with
  | any => exact ha.elim
  | array inner ih =>
    cases b with
    | any => exact hb.elim
    | array other =>
      rw [array_compatible_array] at h
      rw [Caster.standardCast_array, Caster.standardCast_array, ih (b := other) ha hb h]
    | binary | boolean | date | decimal | float | id | integer | string | timestamp => cases h
  | binary | boolean | date | decimal | float | id | integer | string | timestamp =>
    -- The only types that differ and are compatible are those of identifiers and of integers.
    cases b <;> simp_all [compatible, Definite, standardCast_id]

/-- A value of a type that tells it from all definite types that are not compatible with it. -/
def sample : FieldType → Value
  | any => .null
  | array inner => .list [inner.sample]
  | binary => .blob []
  | boolean => .bool false
  | date => .date { julianDay := 0 }
  | decimal => .decimal { negative := false, mantissa := 0, scale := 0 }
  | float => .float ⟨0⟩
  | id | integer => .int 0
  | string => .text ""
  | timestamp => .timestamp { instant := 0, offset := 0 }

theorem admits_sample (a : FieldType) : a.Admits a.sample := by
  induction a with
  | array inner ih => exact .array (List.forall_mem_singleton.2 ih)
  | any | binary | boolean | date | decimal | float | id | integer | string | timestamp =>
    constructor

theorem compatible_of_admits_sample {a b : FieldType} (ha : a.Definite) (hb : b.Definite)
    (h : b.Admits a.sample) : a.compatible b = true := by
  induction a generalizing b with
  | any => exact ha.elim
  | array inner ih =>
    cases h with
    | any => exact hb.elim
    | array hitems =>
      rw [array_compatible_array]
      exact ih ha hb (List.forall_mem_singleton.1 hitems)
  | binary | boolean | date | decimal | float | id | integer | string | timestamp =>
    cases h with
    | any => exact hb.elim
    | _ => rfl

/-- The sample of one type passes for the other, which therefore is compatible. -/
theorem compatible_of_standardCast_eq {a b : FieldType} (ha : a.Definite) (hb : b.Definite)
    (h : Caster.standardCast a = Caster.standardCast b) : a.compatible b = true := by
  have hcast : Caster.standardCast b a.sample = some a.sample := by
    rw [← h]
    exact Caster.standardCast_of_admits a.admits_sample
  exact compatible_of_admits_sample ha hb (Caster.admits_of_standardCast hcast)

theorem compatible_iff_standardCast_eq {a b : FieldType} (ha : a.Definite) (hb : b.Definite) :
    a.compatible b = true ↔ Caster.standardCast a = Caster.standardCast b :=
  ⟨standardCast_eq_of_compatible ha hb, compatible_of_standardCast_eq ha hb⟩

/-- Two types are compatible exactly if they can be completed to types that the standard caster
    treats alike. Every type is compatible with itself, and the order of the two does not matter.
    Between definite types compatibility is an equivalence, and its classes are the types that the
    standard caster treats alike. -/
theorem compatible_iff_cast_alike :
    (∀ a b : FieldType, a.compatible b = true ↔
      ∃ s t : FieldType, s.Definite ∧ t.Definite ∧ ∀ value,
        Caster.standard.cast (a.fill s) value = Caster.standard.cast (b.fill t) value) ∧
    (∀ a : FieldType, a.compatible a = true) ∧
    (∀ a b : FieldType, a.compatible b = b.compatible a) ∧
    Equivalence (fun a b : {type : FieldType // type.Definite} => a.1.compatible b.1 = true) ∧
    ∀ a b : {type : FieldType // type.Definite}, a.1.compatible b.1 = true ↔
      ∀ value, Caster.standard.cast a.1 value = Caster.standard.cast b.1 value := by
  have hdefinite (a b : {type : FieldType // type.Definite}) :
      a.1.compatible b.1 = true ↔ Caster.standardCast a.1 = Caster.standardCast b.1 :=
    compatible_iff_standardCast_eq a.2 b.2
  refine ⟨fun a b => ?_, compatible_refl, compatible_comm, ?_, fun a b => ?_⟩
  · constructor
    · intro h
      obtain ⟨s, t, hs, ht, hst⟩ := exists_fill_compatible h
      have hcast := standardCast_eq_of_compatible (definite_fill hs a) (definite_fill ht b) hst
      exact ⟨s, t, hs, ht, congrFun hcast⟩
    · rintro ⟨s, t, hs, ht, hcast⟩
      exact compatible_of_fill
        (compatible_of_standardCast_eq (definite_fill hs a) (definite_fill ht b) (funext hcast))
  · simp only [hdefinite]
    exact ⟨fun a => rfl, Eq.symm, Eq.trans⟩
  · rw [hdefinite]
    exact funext_iff

/-- With `any` in the middle, types are compatible on both sides that are not with each other. -/
example : id.compatible any = true ∧ any.compatible string = true ∧
    id.compatible string = false := by
  decide

end FieldType

end QueryPlan
