import Termwise.Json.Basic

/-
  A property of the values without parts may hold everywhere
  in a value.  It then holds everywhere in its parts.

  Key definitions include:
    * `Json.Everywhere`
    * `Json.IsTold`

  Main declarations:
    * `Json.everywhere_list`
    * `Json.everywhere_object`
    * `Json.everywhere_of_lookup?`
    * `Json.isWritable_iff`
-/

namespace Termwise

namespace Json

------------------------------------------------------------
-- Properties of All Parts
------------------------------------------------------------

mutual

/- A property holds of all parts that have no parts. -/
def Everywhere (P : Json → Prop) : Json → Prop
| list items => InItems P items
| object fields => InFields P fields
| v => P v

/- It holds everywhere in the items of a list. -/
def InItems (P : Json → Prop) : List Json → Prop
| [] => True
| v :: rest => Everywhere P v ∧ InItems P rest

/- It holds everywhere in the values of some fields. -/
def InFields (P : Json → Prop) : List (String × Json) → Prop
| [] => True
| (_, v) :: rest => Everywhere P v ∧ InFields P rest

end

variable {P : Json → Prop}

/- Everywhere in a list is everywhere in its items. -/
theorem everywhere_list {items : List Json} :
    Everywhere P (list items) ↔ ∀ v ∈ items, Everywhere P v := by
  rw [Everywhere]
  induction items with
  | nil => simp [InItems]
  | cons v rest ih => rw [InItems, ih, List.forall_mem_cons]

/- Everywhere in an object is everywhere in its values. -/
theorem everywhere_object {fields : List (String × Json)} :
    Everywhere P (object fields) ↔
      ∀ f ∈ fields, Everywhere P f.2 := by
  rw [Everywhere]
  induction fields with
  | nil => simp [InFields]
  | cons f rest ih => rw [InFields, ih, List.forall_mem_cons]

------------------------------------------------------------
-- Fields
------------------------------------------------------------

/- A value that is found under a key is in the fields. -/
theorem mem_of_lookup?
    {key : String}
    {fields : List (String × Json)}
    {v : Json}
    (h : lookup? key fields = some v) :
    (key, v) ∈ fields := by
  induction fields with
  | nil => cases h
  | cons f rest ih =>
      rcases f with ⟨k, w⟩
      rw [lookup?] at h
      by_cases hKey : k = key
      · rw [if_pos hKey] at h
        cases h
        rw [hKey]
        exact List.mem_cons_self
      · rw [if_neg hKey] at h
        exact List.mem_cons_of_mem _ (ih h)

/- What holds everywhere in an object does so in a value. -/
theorem everywhere_of_lookup?
    {key : String}
    {fields : List (String × Json)}
    {v : Json}
    (hAll : Everywhere P (object fields))
    (h : lookup? key fields = some v) :
    Everywhere P v :=
  everywhere_object.mp hAll _ (mem_of_lookup? h)

/- A field that is put among others comes to stand there. -/
theorem mem_put
    {key : String}
    {v : Json}
    {fields : List (String × Json)}
    {f : String × Json}
    (h : f ∈ put key v fields) :
    f = (key, v) ∨ f ∈ fields := by
  induction fields with
  | nil => exact .inl (List.mem_singleton.mp h)
  | cons g rest ih =>
      rcases g with ⟨k, w⟩
      rw [put] at h
      by_cases hKey : k = key
      · rw [if_pos hKey] at h
        rcases List.mem_cons.mp h with hFirst | hRest
        · exact .inl hFirst
        · exact .inr (List.mem_cons_of_mem _ hRest)
      · rw [if_neg hKey] at h
        rcases List.mem_cons.mp h with hFirst | hRest
        · rw [hFirst]
          exact .inr List.mem_cons_self
        · rcases ih hRest with hNew | hOld
          · exact .inl hNew
          · exact .inr (List.mem_cons_of_mem _ hOld)

------------------------------------------------------------
-- Writable Values
------------------------------------------------------------

/- A value without parts can be told to others. -/
def IsTold : Json → Prop
| float d => d.isFinite = true
| broken => False
| _ => True

mutual

/- A value can be written if all its parts can be told. -/
theorem isWritable_iff :
    ∀ v, isWritable v = true ↔ Everywhere IsTold v
| null | bool _ | int _ | text _ => by
    simp [isWritable, Everywhere, IsTold]
| float d => by
    simp [isWritable, Everywhere, IsTold]
| broken => by
    simp [isWritable, Everywhere, IsTold]
| list items => by
    rw [isWritable, Everywhere]
    exact areWritable_iff items
| object fields => by
    rw [isWritable, Everywhere]
    exact haveWritable_iff fields

/- The same for the items of a list. -/
theorem areWritable_iff :
    ∀ items, areWritable items = true ↔ InItems IsTold items
| [] => by
    simp [areWritable, InItems]
| v :: rest => by
    rw [areWritable, InItems, Bool.and_eq_true,
      isWritable_iff v, areWritable_iff rest]

/- The same for the values of fields. -/
theorem haveWritable_iff :
    ∀ fields, haveWritable fields = true ↔
      InFields IsTold fields
| [] => by
    simp [haveWritable, InFields]
| (_, v) :: rest => by
    rw [haveWritable, InFields, Bool.and_eq_true,
      isWritable_iff v, haveWritable_iff rest]

end

end Json

end Termwise
