import EventConsole.View.Login

/-!
Contract: the login form does the same whatever characters its password is made of.

Keys ask of the password only whether it is empty, and change it only at its end.
So a form whose password is masked goes on like the form itself.

Owns: masked texts, the form with a masked password, and what keys do to it.
-/

namespace EventConsole

/-! ### Masked texts -/

namespace View

theorem toList_masked (password : String) :
    (masked password).toList = password.toList.map fun _ => maskChar :=
  String.toList_ofList

theorem masked_masked (password : String) : masked (masked password) = masked password := by
  rw [masked, toList_masked, List.map_map]
  rfl

/-- One more character shows the same, whichever it is. -/
theorem masked_push (password : String) (c : Char) :
    masked (password.push c) = (masked password).push maskChar := by
  apply String.toList_inj.mp
  rw [toList_masked, String.toList_push, String.toList_push, toList_masked, List.map_append]
  rfl

private theorem masked_dropLast (password : String) :
    masked (LoginForm.dropLast password) = LoginForm.dropLast (masked password) := by
  apply String.toList_inj.mp
  simp [toList_masked, LoginForm.dropLast]

private theorem isEmpty_masked (password : String) :
    (masked password).isEmpty = password.isEmpty := by
  rw [Bool.eq_iff_iff, String.isEmpty_iff, String.isEmpty_iff]
  simp [← String.toList_eq_nil_iff, toList_masked]

end View

namespace LoginForm

/-- The form with as many marks as its password has characters. -/
def veil (form : LoginForm) : LoginForm := { form with password := View.masked form.password }

theorem veil_veil (form : LoginForm) : form.veil.veil = form.veil := by
  simp [veil, View.masked_masked]

/-! ### Keys -/

theorem veil_edit_push (form : LoginForm) (c : Char) :
    (form.veil.edit (·.push c)).veil = (form.edit (·.push c)).veil := by
  obtain ⟨username, password, focus, error, pending⟩ := form
  cases focus with
  | username => simp [edit, veil, View.masked_masked]
  | password => simp [edit, veil, View.masked_push, View.masked_masked]

private theorem veil_edit_dropLast (form : LoginForm) :
    (form.veil.edit dropLast).veil = (form.edit dropLast).veil := by
  obtain ⟨username, password, focus, error, pending⟩ := form
  cases focus with
  | username => simp [edit, veil, View.masked_masked]
  | password => simp [edit, veil, View.masked_dropLast, View.masked_masked]

private theorem veil_focus (form : LoginForm) (focus : LoginField) :
    { form.veil with focus := focus }.veil = { form with focus := focus }.veil := by
  simp [veil, View.masked_masked]

/-- The form does the same with a masked password. -/
theorem handleKey_veil (form : LoginForm) (key : Key) :
    (form.veil.handleKey key).1 = (form.handleKey key).1 ∧
      (form.veil.handleKey key).2.veil = (form.handleKey key).2.veil := by
  have advances : form.veil.advancesOnEnter = form.advancesOnEnter := by
    simp [advancesOnEnter, veil, View.isEmpty_masked]
  have pending : form.veil.pending = form.pending := rfl
  unfold handleKey
  rw [pending]
  split
  case isTrue => exact ⟨rfl, form.veil_veil⟩
  case isFalse =>
    cases key with
    | tab | down | up | backTab => exact ⟨rfl, veil_focus form _⟩
    | enter =>
        dsimp only
        rw [advances]
        split
        case isTrue => exact ⟨rfl, veil_focus form _⟩
        case isFalse => exact ⟨rfl, form.veil_veil⟩
    | backspace => exact ⟨rfl, veil_edit_dropLast form⟩
    | char c => exact ⟨rfl, veil_edit_push { form with error := none } c⟩
    | _ => exact ⟨rfl, form.veil_veil⟩

/-! ### Characters -/

/-- A character submits nothing. -/
theorem not_submits_char (form : LoginForm) (c : Char) : (form.handleKey (.char c)).1 = false := by
  unfold handleKey
  split <;> rfl

theorem veil_handleKey_char {form : LoginForm} (inPassword : form.focus = .password)
    (c other : Char) :
    (form.handleKey (.char c)).2.veil = (form.handleKey (.char other)).2.veil := by
  unfold handleKey
  split
  case isTrue => rfl
  case isFalse => simp only [edit, inPassword, veil, View.masked_push]

end LoginForm

end EventConsole
