import Stencil.Proofs.Number.Padding
import Stencil.Proofs.Percent.Padding

/-!
# Padded numbers, formatted again

A number in a field that is wide enough is a text that denotes the number, and formatting it again changes
nothing. It is not so if zeros are put in front of a plus sign, a blank or a hexadecimal integer.

* `LosesNumber`: the arguments for which it is not so.
* `format_padded_number`: the main result.
-/

namespace Stencil

open Number Directive Padding

theorem Value.number?_text (s : String) : (Value.text s).number? = Number.number? s := rfl

theorem Value.display_text (s : String) (heap : Heap) : (Value.text s).display heap = s := String.ofList_toList

/-- The default text of an argument that is a number denotes this number, and only the one of a text can break
with zeros. -/
theorem Value.display_of_number? {arg : Value} {y : Binary64} (h : arg.number? = some y) (heap : Heap) :
    (∃ s, arg = .text s ∧ Number.number? s = some y) ∨
      ShowsNumber y (arg.display heap).toList := by
  cases arg with
  | text s => exact .inl ⟨s, rfl, h⟩
  | integer i =>
    obtain rfl := Option.some.inj h
    refine .inr ?_
    have hdisplay : (Value.integer i).display heap = String.ofList (intNumeral i.toInt) := rfl
    rw [hdisplay, String.toList_ofList]
    exact showsNumber_intNumeral i
  | real x =>
    rw [number?] at h
    split at h
    · rename_i hfinite
      obtain ⟨negative, x, rfl⟩ := Binary64.exists_of_isFinite hfinite
      obtain rfl := Option.some.inj h
      have hdisplay : (Value.real (.finite negative x)).display heap =
          String.ofList (Binary64.finite negative x).displayText := rfl
      rw [hdisplay, String.toList_ofList]
      exact .inr (showsNumber_displayText negative x)
    · cases h
  | _ => cases h

namespace Percent

/-- Zeros are added to a text that breaks with them. -/
def LosesNumber (fill : Fill) (width : Nat) (arg : Value) : Prop :=
  fill = .zeros ∧ ∃ s, arg = .text s ∧ s.toList.length < width ∧ BreaksWithZeros s.toList

variable {fill : Fill} {digits : List Char} {width : Nat} {arg : Value} {y : Binary64}

/-- A template that is one directive for integers puts a number in its field. -/
theorem run_format_number (fill : Fill) (hwidth : ofNumeral? 10 digits = some width) (hmax : width ≤ maxFieldSize)
    (hform : (PaddedForm.integer fill).Spelled digits) (harg : arg.number? = some y) (store : Store) :
    (format builtin (fieldTemplate ((PaddedForm.integer fill).field digits)) [arg]).run store =
      (.ok ⟨true, String.ofList (place fill (arg.display store.heap).toList width)⟩, store) := by
  have hcontent : (PaddedForm.integer fill).content store.heap arg = .ok (arg.display store.heap).toList :=
    if_pos (harg ▸ rfl)
  rw [run_format_padded _ hwidth hmax hform, hcontent]
  rfl

/-- It fails on anything else. -/
theorem run_format_not_a_number (fill : Fill) (hwidth : ofNumeral? 10 digits = some width)
    (hmax : width ≤ maxFieldSize) (hform : (PaddedForm.integer fill).Spelled digits)
    (harg : arg.number? = none) (store : Store) :
    (format builtin (fieldTemplate ((PaddedForm.integer fill).field digits)) [arg]).run store =
      (.error (notANumber store.heap arg), store) := by
  have hcontent : (PaddedForm.integer fill).content store.heap arg = .error (notANumber store.heap arg) :=
    if_neg (by rw [harg]; nofun)
  rw [run_format_padded _ hwidth hmax hform, hcontent]
  rfl

/-- The text in the field denotes the number, if no zeros break it. -/
theorem exists_number_place (harg : arg.number? = some y) {heap : Heap}
    (hfits : (arg.display heap).toList.length ≤ width) (hkept : ¬ LosesNumber fill width arg) :
    ∃ z, (Value.text (String.ofList (place fill (arg.display heap).toList width))).number? = some z ∧
      z.equals y = true := by
  have hfinite := Value.isFinite_of_number? harg
  simp only [Value.number?_text]
  rcases Value.display_of_number? harg heap with ⟨s, rfl, hnumber⟩ | hshows
  · rw [Value.display_text] at hfits ⊢
    rw [← s.ofList_toList] at hnumber
    exact ⟨y, number?_place fill hnumber hfits fun hfill hlt hbreaks =>
      hkept ⟨hfill, s, rfl, hlt, hbreaks⟩, Binary64.equals_self_of_isFinite hfinite⟩
  · obtain ⟨z, hnumber, hequals⟩ := hshows.number? hfinite
    exact ⟨z, number?_place fill hnumber hfits fun _ _ => hshows.not_breaksWithZeros, hequals⟩

/-- Zeros that break a text leave no number in the field. -/
theorem number?_place_of_loses (harg : arg.number? = some y) (hloses : LosesNumber fill width arg)
    (heap : Heap) :
    (Value.text (String.ofList (place fill (arg.display heap).toList width))).number? = none := by
  obtain ⟨rfl, s, rfl, hlt, hbreaks⟩ := hloses
  have hnumber : Number.number? (String.ofList s.toList) = some y := by rwa [String.ofList_toList]
  obtain ⟨k, hk⟩ : ∃ k, width - s.toList.length = k + 1 := ⟨width - s.toList.length - 1, by omega⟩
  rw [Value.display_text, place_of_lt _ hlt, hk, Value.number?_text]
  exact number?_insert_zeros_of_breaks k hnumber hbreaks

/-- **Padded numbers.** In place of `%5d`, `%-5d` or `%05d`, with a width up to 100, and a number of which the
default text is not longer than the width stands a text that denotes this number, and the same directive
puts this text in place of itself. Zeros in front of a plus sign, a blank or a hexadecimal integer, and they
alone, make it a text that denotes no number, on which the directive fails. -/
theorem format_padded_number (fill : Fill) (hwidth : ofNumeral? 10 digits = some width) (hmax : width ≤ 100)
    (hform : (PaddedForm.integer fill).Spelled digits) (harg : arg.number? = some y) (store : Store)
    (hfits : (arg.display store.heap).toList.length ≤ width) :
    let template := fieldTemplate ((PaddedForm.integer fill).field digits)
    ∃ s, (format builtin template [arg]).run store = (.ok ⟨true, s⟩, store) ∧
      (¬ LosesNumber fill width arg → ∃ z, (Value.text s).number? = some z ∧ z.equals y = true ∧
        (format builtin template [.text s]).run store = (.ok ⟨true, s⟩, store)) ∧
      (LosesNumber fill width arg → (Value.text s).number? = none ∧
        (format builtin template [.text s]).run store =
          (.error (.typeMismatch "an integer" s), store)) := by
  refine ⟨_, run_format_number fill hwidth hmax hform harg store, fun hkept => ?_, fun hloses => ?_⟩
  · obtain ⟨z, hz, hequals⟩ := exists_number_place harg hfits hkept
    refine ⟨z, hz, hequals, ?_⟩
    rw [run_format_number fill hwidth hmax hform hz store, Value.display_text, String.toList_ofList,
      place_place]
  · have hz := number?_place_of_loses harg hloses store.heap
    refine ⟨hz, ?_⟩
    rw [run_format_not_a_number fill hwidth hmax hform hz store, notANumber, Value.display_text]

/-- The zeros stand behind the minus sign of a text. -/
theorem format_padded_number_minus :
    let arg := Value.text "-4.5"
    ofNumeral? 10 ['7'] = some 7 ∧ 7 ≤ 100 ∧ arg.number?.isSome = true ∧
      (arg.display Store.empty.heap).toList.length ≤ 7 ∧ ¬ LosesNumber .zeros 7 arg ∧
      (format builtin "%07d" [arg]).run Store.empty = (.ok ⟨true, "-0004.5"⟩, Store.empty) ∧
      (∃ z, (Value.text "-0004.5").number? = some z ∧ ∃ y, arg.number? = some y ∧ z.equals y = true) ∧
      (format builtin "%07d" [.text "-0004.5"]).run Store.empty =
        (.ok ⟨true, "-0004.5"⟩, Store.empty) := by
  intro arg
  have hwidth : ofNumeral? 10 ['7'] = some 7 := rfl
  have hsome : arg.number?.isSome = true := by decide +kernel
  obtain ⟨y, harg⟩ := Option.isSome_iff_exists.mp hsome
  have hfits : (arg.display Store.empty.heap).toList.length ≤ 7 := by decide +kernel
  have hkept : ¬ LosesNumber .zeros 7 arg := by
    rintro ⟨-, s, hs, -, hbreaks⟩
    obtain rfl := Value.text.inj hs
    rcases hbreaks with ⟨c, more, hcons, hc⟩ | hhex
    · obtain ⟨rfl, -⟩ := List.cons.inj hcons
      exact absurd hc (by decide)
    · exact absurd hhex (by decide +kernel)
  obtain ⟨s, hrun, hsame, -⟩ :=
    format_padded_number .zeros hwidth (by decide) trivial harg Store.empty hfits
  obtain ⟨z, hz, hequals, hagain⟩ := hsame hkept
  obtain rfl : s = "-0004.5" := by
    have hfield := run_format_number .zeros hwidth (by decide) trivial harg Store.empty
    rw [hrun] at hfield
    have hplace : String.ofList (place .zeros (arg.display Store.empty.heap).toList 7) = "-0004.5" := by
      decide +kernel
    rw [hplace] at hfield
    cases hfield
    rfl
  exact ⟨hwidth, by decide, hsome, hfits, hkept, hrun, ⟨z, hz, y, harg, hequals⟩, hagain⟩

/-- The zeros stand in front of a plus sign, and the field is not accepted again. -/
theorem format_padded_number_plus :
    let arg := Value.text "+5"
    arg.number?.isSome = true ∧ (arg.display Store.empty.heap).toList.length ≤ 5 ∧
      (format builtin "%05d" [arg]).run Store.empty = (.ok ⟨true, "000+5"⟩, Store.empty) ∧
      (Value.text "000+5").number? = none ∧
      (format builtin "%05d" [.text "000+5"]).run Store.empty =
        (.error (.typeMismatch "an integer" "000+5"), Store.empty) := by
  intro arg
  have hwidth : ofNumeral? 10 ['5'] = some 5 := rfl
  have hsome : arg.number?.isSome = true := by decide +kernel
  obtain ⟨y, harg⟩ := Option.isSome_iff_exists.mp hsome
  have hnone : (Value.text "000+5").number? = none := by decide +kernel
  have hrun := run_format_number .zeros hwidth (by decide) trivial harg Store.empty
  have hplace : String.ofList (place .zeros (arg.display Store.empty.heap).toList 5) = "000+5" := by
    decide +kernel
  rw [hplace] at hrun
  exact ⟨hsome, by decide +kernel, hrun, hnone,
    run_format_not_a_number .zeros hwidth (by decide) trivial hnone Store.empty⟩

end Percent

end Stencil
