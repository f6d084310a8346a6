import Termwise.Json.Read
import Termwise.Proofs.Json.Marking

/-
  A plain value that was written is read as that value, in
  every dialect that has room for its levels.

  Key definitions include:
    * `Json.levels`
    * `Json.Dialect.HasRoom`

  Main declarations:
    * `Json.takeAll_valueMarks`
    * `Json.read_write`
-/

namespace Termwise

namespace Json

------------------------------------------------------------
-- Levels
------------------------------------------------------------

mutual

/- How deep lists and objects with parts are nested. -/
def levels : Json → Nat
| list [] => 0
| list (v :: rest) => 1 + max (levels v) (itemLevels rest)
| object [] => 0
| object ((_, v) :: rest) =>
    1 + max (levels v) (fieldLevels rest)
| _ => 0

/- The most levels of an item. -/
def itemLevels : List Json → Nat
| [] => 0
| v :: rest => max (levels v) (itemLevels rest)

/- The most levels of a field. -/
def fieldLevels : List (String × Json) → Nat
| [] => 0
| (_, v) :: rest => max (levels v) (fieldLevels rest)

end

/- A dialect takes values that are nested so deep. -/
def Dialect.HasRoom (d : Dialect) (n : Nat) : Prop :=
  ∀ limit ∈ d.depth, n ≤ limit

/- What has room for more has room for less. -/
theorem Dialect.HasRoom.mono
    {d : Dialect}
    {m n : Nat}
    (h : d.HasRoom n)
    (hLess : m ≤ n) :
    d.HasRoom m :=
  fun limit hLimit => Nat.le_trans hLess (h limit hLimit)

/- A value is admitted where there is room for it. -/
theorem Dialect.admits_of_hasRoom
    {d : Dialect}
    {opened : List Frame}
    (h : d.HasRoom opened.length) :
    d.admits opened = true := by
  unfold admits
  cases hDepth : d.depth with
  | none => rfl
  | some limit => exact decide_eq_true (h limit hDepth)

------------------------------------------------------------
-- Keys
------------------------------------------------------------

/- A new key is put behind the others. -/
theorem put_of_not_mem
    {key : String}
    {fields : List (String × Json)}
    (h : key ∉ fields.map Prod.fst)
    (v : Json) :
    put key v fields = fields ++ [(key, v)] := by
  induction fields with
  | nil => rfl
  | cons f rest ih =>
      rcases f with ⟨k, w⟩
      rw [List.map_cons, List.mem_cons, not_or] at h
      rw [put, if_neg (Ne.symm h.1), ih h.2]
      rfl

------------------------------------------------------------
-- Taking Marks
------------------------------------------------------------

/- A value begins with a mark that closes nothing. -/
theorem valueMarks_eq_cons (v : Json) :
    ∃ m ms, valueMarks v = m :: ms ∧ m ≠ .closeList := by
  cases v with
  | null | bool | int | float | text | broken =>
      exact ⟨_, _, rfl, Mark.noConfusion⟩
  | list items =>
      cases items <;> exact ⟨_, _, rfl, Mark.noConfusion⟩
  | object fields =>
      cases fields <;> exact ⟨_, _, rfl, Mark.noConfusion⟩

section Taking

variable {d : Dialect} {stack : List Frame}

/- The first item of a list is taken like any value. -/
theorem takeAll_firstItem
    (hRoom : d.HasRoom stack.length)
    (v : Json)
    (ms : List Mark) :
    Reader.takeAll d ⟨stack, .valueOrClose⟩
        (valueMarks v ++ ms) =
      Reader.takeAll d ⟨stack, .value⟩
        (valueMarks v ++ ms) := by
  rcases valueMarks_eq_cons v with ⟨m, rest, hMarks, hOther⟩
  have hTake :
      Reader.take d ⟨stack, .valueOrClose⟩ m =
        Reader.take d ⟨stack, .value⟩ m := by
    have hFirst : ∀ next,
        Reader.takeFirst d ⟨stack, .valueOrClose⟩ next =
          next := fun next =>
      if_pos (d.admits_of_hasRoom hRoom)
    cases m with
    | closeList => exact absurd rfl hOther
    | openList | openObject | closeObject | comma | colon
    | atom | overlong | bad => exact hFirst _
  rw [hMarks, List.cons_append, Reader.takeAll,
    Reader.takeAll, hTake]

mutual

/-
  The marks of a plain value are taken as the value, which is
  put where it belongs, if there is room for its levels.
-/
theorem takeAll_valueMarks
    {rule : LengthRule} :
    ∀ (v : Json) (stack : List Frame) (ms : List Mark),
      Plain rule v →
      d.HasRoom (stack.length + levels v) →
      Reader.takeAll d ⟨stack, .value⟩ (valueMarks v ++ ms) =
        Reader.takeAll d (Reader.deliver v stack) ms
| null, _, _, _, _ => rfl
| bool _, _, _, _, _ => rfl
| int _, _, _, _, _ => rfl
| float _, _, _, h, _ => h.elim
| text _, _, _, _, _ => rfl
| broken, _, _, h, _ => h.elim
| list [], _, _, _, _ => rfl
| list (v :: rest), stack, ms, h, hRoom => by
    rw [Plain, PlainItems] at h
    rw [levels] at hRoom
    have hOpen : ∀ items n,
        n ≤ max (levels v) (itemLevels rest) →
          d.HasRoom ((Frame.list items :: stack).length + n) :=
      fun items n hn => hRoom.mono (by
        rw [List.length_cons]
        omega)
    have hFirst := takeAll_valueMarks v
      (.list [] :: stack)
      (itemMarks rest ++ .closeList :: ms) h.1
      (hOpen [] _ (Nat.le_max_left _ _))
    have hItems := takeAll_itemMarks rest [v] stack
      (.closeList :: ms) h.2
      (hOpen [] _ (Nat.le_max_right _ _))
    rw [← takeAll_firstItem (hOpen [] 0 (Nat.zero_le _))]
      at hFirst
    have hClose :
        (rest.reverse ++ [v]).reverse = v :: rest := by
      simp
    rw [valueMarks]
    simp only [List.cons_append, List.append_assoc,
      List.nil_append, Reader.takeAll, Reader.take,
      Reader.takeValue]
    rw [hFirst]
    show Reader.takeAll d
      ⟨.list [v] :: stack, .commaOrClose⟩ _ = _
    rw [hItems]
    simp only [Reader.takeAll, Reader.take, Reader.takeBetween,
      Reader.takeClose, hClose]
| object [], _, _, _, _ => rfl
| object ((k, v) :: rest), stack, ms, h, hRoom => by
    rw [Plain, PlainFields] at h
    rw [levels] at hRoom
    have hOpen : ∀ (f : Frame) n,
        n ≤ max (levels v) (fieldLevels rest) →
          d.HasRoom ((f :: stack).length + n) :=
      fun f n hn => hRoom.mono (by
        rw [List.length_cons]
        omega)
    have hFirst := takeAll_valueMarks v
      (.entry .empty (some k) :: stack)
      (fieldMarks rest ++ .closeObject :: ms) h.2.1
      (hOpen _ _ (Nat.le_max_left _ _))
    have hFields := takeAll_fieldMarks rest [(k, v)] stack
      (.closeObject :: ms) h.1 h.2.2
      (hOpen (.list []) _ (Nat.le_max_right _ _))
    have hAdmits :
        d.admits (.object .empty :: stack) = true :=
      d.admits_of_hasRoom
        (hOpen (.object .empty) 0 (Nat.zero_le _))
    rw [valueMarks]
    simp only [List.cons_append, List.append_assoc,
      List.nil_append, Reader.takeAll, Reader.take,
      Reader.takeValue, Reader.takeKey, Reader.takeFirst,
      hAdmits, if_true]
    rw [hFirst]
    show Reader.takeAll d
      ⟨.object ⟨[(k, v)], false⟩ :: stack, .commaOrClose⟩ _ = _
    rw [hFields]
    simp only [Reader.takeAll, Reader.take, Reader.takeBetween,
      Reader.takeClose, Members.toJson, List.cons_append,
      List.nil_append]
    rfl

/- The marks of more items are taken as these items. -/
theorem takeAll_itemMarks
    {rule : LengthRule} :
    ∀ (items done : List Json) (stack : List Frame)
      (ms : List Mark),
      PlainItems rule items →
      d.HasRoom
        ((Frame.list [] :: stack).length + itemLevels items) →
      Reader.takeAll d ⟨.list done :: stack, .commaOrClose⟩
          (itemMarks items ++ ms) =
        Reader.takeAll d
          ⟨.list (items.reverse ++ done) :: stack,
            .commaOrClose⟩ ms
| [], _, _, _, _, _ => rfl
| v :: rest, done, stack, ms, h, hRoom => by
    rw [PlainItems] at h
    rw [itemLevels] at hRoom
    have hFirst := takeAll_valueMarks v (.list done :: stack)
      (itemMarks rest ++ ms) h.1 (hRoom.mono (by
        rw [List.length_cons, List.length_cons]
        omega))
    have hItems := takeAll_itemMarks rest (v :: done) stack ms
      h.2 (hRoom.mono (by omega))
    rw [itemMarks]
    simp only [List.cons_append, List.append_assoc,
      Reader.takeAll, Reader.take, Reader.takeBetween]
    rw [hFirst]
    show Reader.takeAll d
      ⟨.list (v :: done) :: stack, .commaOrClose⟩ _ = _
    rw [hItems, List.reverse_cons, List.append_assoc]
    rfl

/- The marks of more fields are taken as these fields. -/
theorem takeAll_fieldMarks
    {rule : LengthRule} :
    ∀ (fields done : List (String × Json))
      (stack : List Frame) (ms : List Mark),
      ((done ++ fields).map Prod.fst).Nodup →
      PlainFields rule fields →
      d.HasRoom
        ((Frame.list [] :: stack).length
          + fieldLevels fields) →
      Reader.takeAll d
          ⟨.object ⟨done, false⟩ :: stack, .commaOrClose⟩
          (fieldMarks fields ++ ms) =
        Reader.takeAll d
          ⟨.object ⟨done ++ fields, false⟩ :: stack,
            .commaOrClose⟩ ms
| [], done, _, _, _, _, _ => by
    rw [List.append_nil]
    rfl
| (k, v) :: rest, done, stack, ms, hKeys, h, hRoom => by
    rw [PlainFields] at h
    rw [fieldLevels] at hRoom
    have hNew : k ∉ done.map Prod.fst := by
      rw [List.map_append, List.map_cons,
        List.nodup_append] at hKeys
      intro hMem
      exact hKeys.2.2 k hMem k List.mem_cons_self rfl
    have hPut := put_of_not_mem hNew v
    have hKeys₂ :
        (((done ++ [(k, v)]) ++ rest).map Prod.fst).Nodup := by
      rw [List.append_assoc]
      exact hKeys
    have hFirst := takeAll_valueMarks v
      (.entry ⟨done, false⟩ (some k) :: stack)
      (fieldMarks rest ++ ms) h.1 (hRoom.mono (by
        rw [List.length_cons, List.length_cons]
        omega))
    have hFields := takeAll_fieldMarks rest (done ++ [(k, v)])
      stack ms hKeys₂ h.2 (hRoom.mono (by omega))
    rw [fieldMarks]
    simp only [List.cons_append, List.append_assoc,
      Reader.takeAll, Reader.take, Reader.takeBetween,
      Reader.takeKey]
    rw [hFirst]
    simp only [Reader.deliver, Members.put, hPut]
    rw [hFields, List.append_assoc]
    rfl

end

end Taking

------------------------------------------------------------
-- Reading What Was Written
------------------------------------------------------------

/-
  Reading undoes writing: in whatever layout a plain value is
  written, it is read as the same value.
-/
theorem read_write
    {d : Dialect}
    (l : Layout)
    {v : Json}
    (hPlain : Plain d.lengths v)
    (hRoom : d.HasRoom (levels v)) :
    read d (write l v) = .ok v := by
  have hTake := takeAll_valueMarks v [] [] hPlain
    (hRoom.mono (by simp))
  rw [List.append_nil] at hTake
  rw [read, write, String.toList_ofList, readChars,
    marks_chars l hPlain, ofMarks, Reader.start, hTake]
  rfl

end Json

end Termwise
