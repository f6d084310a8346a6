import Mathlib.Data.List.TakeWhile
import Termwise.Text.Blank

/-
  A run of characters of one class is taken off a text as far
  as it goes, from its start or from both of its ends.

  Key definitions include:
    * `EndsRun`

  Main declarations:
    * `takeWhile_run`
    * `dropWhile_run`
    * `takeWhile_split`
    * `dropWhile_split`
    * `Text.trim_between`
    * `Text.all_of_trim_eq_nil`
-/

namespace Termwise

/- A text does not begin with a character of a class. -/
def EndsRun
    (p : Char → Bool)
    (rest : List Char) : Prop :=
  ∀ c ∈ rest.head?, p c = false

/- A run ends with the text. -/
theorem EndsRun.nil (p : Char → Bool) : EndsRun p [] := by
  intro c hc
  cases hc

/- A run ends before a character of another class. -/
theorem EndsRun.cons
    {p : Char → Bool}
    {c : Char}
    (hc : p c = false)
    (rest : List Char) :
    EndsRun p (c :: rest) := by
  intro d hd
  cases hd
  exact hc

/- It does not begin with one that was cut off. -/
theorem EndsRun.dropWhile
    (p : Char → Bool)
    (cs : List Char) :
    EndsRun p (cs.dropWhile p) := by
  intro c hc
  have hFirst := List.head?_dropWhile_not p cs
  rw [Option.mem_def.mp hc] at hFirst
  exact hFirst

/- Neither of two texts begins with one, so both together. -/
theorem EndsRun.append
    {p : Char → Bool}
    {cs ds : List Char}
    (hFirst : EndsRun p cs)
    (hSecond : EndsRun p ds) :
    EndsRun p (cs ++ ds) := by
  cases cs with
  | nil => exact hSecond
  | cons c cs => exact .cons (hFirst c rfl) _

/- A run is taken as far as it goes. -/
theorem takeWhile_run
    {p : Char → Bool}
    {run rest : List Char}
    (hRun : ∀ c ∈ run, p c = true)
    (hRest : EndsRun p rest) :
    (run ++ rest).takeWhile p = run := by
  rw [List.takeWhile_append_of_pos hRun]
  cases rest with
  | nil => rw [List.takeWhile_nil, List.append_nil]
  | cons c cs =>
      rw [List.takeWhile_cons, if_neg (by simp [hRest c rfl]),
        List.append_nil]

/- What follows a run is left. -/
theorem dropWhile_run
    {p : Char → Bool}
    {run rest : List Char}
    (hRun : ∀ c ∈ run, p c = true)
    (hRest : EndsRun p rest) :
    (run ++ rest).dropWhile p = rest := by
  rw [List.dropWhile_append_of_pos hRun]
  cases rest with
  | nil => rfl
  | cons c cs =>
      rw [List.dropWhile_cons, if_neg (by simp [hRest c rfl])]

/- No run goes on behind a character of another class. -/
theorem takeWhile_split
    {p : Char → Bool}
    {c : Char}
    (h : p c = false)
    (cs rest : List Char) :
    (cs ++ c :: rest).takeWhile p = cs.takeWhile p := by
  induction cs with
  | nil => simp [h]
  | cons d cs ih =>
      rw [List.cons_append, List.takeWhile_cons,
        List.takeWhile_cons, ih]

/- So that character is left, and what follows it. -/
theorem dropWhile_split
    {p : Char → Bool}
    {c : Char}
    (h : p c = false)
    (cs rest : List Char) :
    (cs ++ c :: rest).dropWhile p =
      cs.dropWhile p ++ c :: rest := by
  induction cs with
  | nil => simp [h]
  | cons d cs ih =>
      rw [List.cons_append, List.dropWhile_cons,
        List.dropWhile_cons, ih]
      split
      · rfl
      · rfl

/-
  A text is what is trimmed off in front, the trimmed text,
  and what is trimmed off at its end.
-/
theorem Text.trim_between
    (p : Char → Bool)
    (cs : List Char) :
    ∃ back, cs = cs.takeWhile p ++ trim p cs ++ back ∧
      ∀ c ∈ back, p c = true := by
  let rest := cs.dropWhile p
  refine ⟨(rest.reverse.takeWhile p).reverse, ?_, ?_⟩
  · have hRest :
        trim p cs ++ (rest.reverse.takeWhile p).reverse =
          rest := by
      rw [trim, ← List.reverse_append,
        List.takeWhile_append_dropWhile, List.reverse_reverse]
    rw [List.append_assoc, hRest,
      List.takeWhile_append_dropWhile]
  · intro c hc
    exact List.mem_takeWhile_imp (List.mem_reverse.mp hc)

/- What is trimmed to nothing is of the class throughout. -/
theorem Text.all_of_trim_eq_nil
    {p : Char → Bool}
    {cs : List Char}
    (h : trim p cs = []) :
    ∀ c ∈ cs, p c = true := by
  intro c hc
  rcases trim_between p cs with ⟨back, hText, hBack⟩
  rw [hText, h, List.append_nil] at hc
  rcases List.mem_append.mp hc with hFront | hLast
  · exact List.mem_takeWhile_imp hFront
  · exact hBack c hLast

end Termwise
