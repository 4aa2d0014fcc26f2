import Playbook.Proofs.Templates
import Playbook.Value.Plain

/-!
# Texts of scalars

The texts of truth values, numbers and calendar values have no braces, so no placeholder can
stand in them.
-/

namespace Playbook

/-- Having no opening brace. -/
def Unbraced (cs : List Char) : Prop := '\x7b' ∉ cs

namespace Unbraced

instance (cs : List Char) : Decidable (Unbraced cs) := inferInstanceAs (Decidable (¬_))

variable {first second cs : List Char}

@[simp] theorem append_iff : Unbraced (first ++ second) ↔ Unbraced first ∧ Unbraced second := by
  simp [Unbraced]

@[simp] theorem cons_iff {c : Char} : Unbraced (c :: cs) ↔ '\x7b' ≠ c ∧ Unbraced cs := by
  simp [Unbraced]

@[simp] theorem nil : Unbraced [] := List.not_mem_nil

theorem mono (unbraced : Unbraced cs) (subset : first ⊆ cs) : Unbraced first :=
  fun member => unbraced (subset member)

@[simp] theorem replicate_zero (n : Nat) : Unbraced (List.replicate n '0') := by
  intro member
  cases List.eq_of_mem_replicate member

@[simp] theorem toDigits (n : Nat) : Unbraced (Nat.toDigits 10 n) := by
  intro member
  cases Nat.isDigit_of_mem_toDigits (by decide) (by decide) member

@[simp] theorem natRepr (n : Nat) : Unbraced n.repr.toList := by
  rw [show n.repr.toList = Nat.toDigits 10 n from String.toList_ofList]
  exact toDigits n

@[simp] theorem intRepr (n : Int) : Unbraced n.repr.toList := by
  cases n with
  | ofNat n => exact natRepr n
  | negSucc n =>
      change Unbraced ("-" ++ (n + 1).repr).toList
      simp

@[simp] theorem padded (width n : Nat) : Unbraced (Calendar.padded width n).toList := by
  simp [Calendar.padded]

theorem date (d : Date) : Unbraced d.text.toList := by
  simp [Date.text]

theorem offset (o : Int) : Unbraced (DateTime.offsetText o).toList := by
  unfold DateTime.offsetText
  dsimp only
  split <;> split <;> simp

theorem datetime (t : DateTime) : Unbraced t.text.toList := by
  unfold DateTime.text DateTime.textWith
  have day := date t.date
  dsimp only
  cases t.offset with
  | none => split <;> simp [day]
  | some o => split <;> simp [day, offset o]

theorem duration (d : Duration) : Unbraced d.text.toList := by
  have fraction : Unbraced
      (if d.microseconds = 0 then "" else "." ++ Calendar.padded 6 d.microseconds).toList := by
    split <;> simp
  unfold Duration.text
  dsimp only
  split
  · simp [fraction]
  · split <;> simp [fraction]

theorem exponentText (power : Int) : Unbraced (Binary64.exponentText power) := by
  unfold Binary64.exponentText
  dsimp only
  split <;> split <;> simp

theorem write {digits : List Char} (unbraced : Unbraced digits) (layout : Binary64.Layout)
    (power : Int) : Unbraced (layout.write digits power) := by
  have front (n : Nat) : Unbraced (digits.take n) := unbraced.mono (List.take_subset n digits)
  have back (n : Nat) : Unbraced (digits.drop n) := unbraced.mono (List.drop_subset n digits)
  unfold Binary64.Layout.write
  split
  · split
    · exact nil
    · rename_i d
      exact cons_iff.mpr ⟨(cons_iff.mp unbraced).1, exponentText power⟩
    · rename_i d rest _
      obtain ⟨first, later⟩ := cons_iff.mp unbraced
      simp [first, later, exponentText power]
  · split
    · simp [unbraced]
    · dsimp only
      split
      · split <;> simp [front]
      · simp [front, back]

theorem significant (digits : Nat) (place : Int) :
    Unbraced (Binary64.significant digits place).1 := by
  have kept : Unbraced ((Nat.toDigits 10 digits).reverse.dropWhile (· == '0')).reverse := by
    apply (toDigits digits).mono
    intro c member
    have kept := (List.dropWhile_suffix _).subset (List.mem_reverse.mp member)
    exact List.mem_reverse.mp kept
  unfold Binary64.significant
  dsimp only
  split
  · decide
  · exact kept

theorem float (x : Binary64) : Unbraced x.text.toList := by
  cases x with
  | nan => decide
  | infinite negative => cases negative <;> decide
  | finite negative mantissa exponent =>
      have digits : Unbraced (if mantissa = 0 then (['0'], 0)
          else Binary64.significant (Binary64.shortestDigits mantissa exponent).1
            (Binary64.shortestDigits mantissa exponent).2).1 := by
        split
        · decide
        · exact significant _ _
      unfold Binary64.text Binary64.textWith
      dsimp only
      rw [String.toList_ofList]
      split
      · exact cons_iff.mpr ⟨by decide, write digits _ _⟩
      · exact write digits _ _

end Unbraced

/-- Scalars that are neither texts nor bytes hold no placeholder. -/
theorem Value.keys_stringify_eq_nil {v : Value} {s : String} (scalar : v.isScalar = true)
    (notText : ∀ t, v ≠ .text t) (notBytes : ∀ b, v ≠ .bytes b) (shown : v.stringify = .ok s) :
    Template.keys s = [] := by
  apply Template.keys_eq_nil_of_not_mem
  cases v with
  | text t => exact absurd rfl (notText t)
  | bytes b => exact absurd rfl (notBytes b)
  | bool b => cases b <;> cases shown <;> decide
  | int n =>
      change intText n = .ok s at shown
      unfold intText Numeral.intText? at shown
      split at shown
      · rename_i written
        cases shown
        obtain ⟨_, same⟩ := Option.ite_some_none_eq_some.mp written
        exact same ▸ Unbraced.intRepr n
      · cases shown
  | float x =>
      have same : x.text = s := Except.ok.inj shown
      exact same ▸ Unbraced.float x
  | date d =>
      have same : d.text = s := Except.ok.inj shown
      exact same ▸ Unbraced.date d
  | datetime t =>
      have same : t.text = s := Except.ok.inj shown
      exact same ▸ Unbraced.datetime t
  | duration d =>
      have same : d.text = s := Except.ok.inj shown
      exact same ▸ Unbraced.duration d
  | _ => cases scalar

end Playbook
