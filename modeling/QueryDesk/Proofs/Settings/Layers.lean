import QueryDesk.CommandLine.Carrying
import QueryDesk.Proofs.Text.Decimal
import QueryDesk.Surroundings.Rehearsal

/-! # Settings in layers

Settings are found in two layers. The lower one is held by a file (`HeldBy`): by the one that was asked for, or by the
first of the usual places that holds any, and if there is none the defaults are the lower layer (`Underneath`). Over
it the variables of the environment are laid, each over one setting (`LaidOver`), and a variable that says nothing
leaves its setting as it is below. `resolve_layers` says that the settings that hold are found so; the program asks
its surroundings for no more than that (`Stage.play_findSettings`).
-/

set_option autoImplicit false

namespace QueryDesk

/-! ## Looking for settings -/

section Looking

variable {α β γ : Type}

end Looking

namespace Settings

/-! ## The lower layer -/

/-- **A file holds settings**: it can be read, and its text makes sense as settings. -/
def HeldBy (file : FileContent) (s : Settings) : Prop := ∃ text, file = .text text ∧ parse? text = some s

/-- **The settings of the first file that holds any**, or the defaults if none does. -/
def FirstHeld (files : List FileContent) (s : Settings) : Prop :=
  (∃ before file after, files = before ++ file :: after ∧ HeldBy file s ∧ ∀ f ∈ before, ∀ t, ¬HeldBy f t) ∨
    (∀ f ∈ files, ∀ t, ¬HeldBy f t) ∧ s = default

/-- **The lower layer**: what the file that was asked for holds, or else the first of the usual places. -/
def Underneath (files : String → FileContent) (directory : Option String) : Option String → Settings → Prop
  | some path, s => HeldBy (files path) s
  | none, s => FirstHeld ((usualPaths directory).map files) s

theorem load_eq_ok_iff {file : FileContent} {s : Settings} : load file = .ok s ↔ HeldBy file s := by
  cases file with
  | text content => cases h : parse? content <;> simp [load, HeldBy, h]
  | missing | unreadable => simp [load, HeldBy]

theorem toOption_load_eq_some_iff {file : FileContent} {s : Settings} :
    (load file).toOption = some s ↔ HeldBy file s := by
  rw [← load_eq_ok_iff]
  cases load file <;> simp [Except.toOption]

theorem toOption_load_eq_none_iff {file : FileContent} :
    (load file).toOption = none ↔ ∀ s, ¬HeldBy file s := by
  rw [Option.eq_none_iff_forall_ne_some]
  exact forall_congr' fun s => not_congr toOption_load_eq_some_iff

theorem findSome?_load_eq_some_iff {files : List FileContent} {s : Settings} :
    (files.findSome? fun file => (load file).toOption) = some s ↔
      ∃ before file after, files = before ++ file :: after ∧ HeldBy file s ∧ ∀ f ∈ before, ∀ t, ¬HeldBy f t := by
  simp only [List.findSome?_eq_some_iff, toOption_load_eq_some_iff, toOption_load_eq_none_iff]

theorem findSome?_load_eq_none_iff {files : List FileContent} :
    (files.findSome? fun file => (load file).toOption) = none ↔ ∀ f ∈ files, ∀ t, ¬HeldBy f t := by
  simp only [List.findSome?_eq_none_iff, toOption_load_eq_none_iff]

/-- **The files are tried in their order.** -/
theorem getD_findSome?_load_iff {files : List FileContent} {s : Settings} :
    (files.findSome? fun file => (load file).toOption).getD default = s ↔ FirstHeld files s := by
  rw [Option.getD_eq_iff, findSome?_load_eq_some_iff, findSome?_load_eq_none_iff, FirstHeld, @eq_comm _ default]

/-! ## The layer of the environment -/

/-- What there is below the environment. -/
def below (files : String → FileContent) (directory : Option String) :
    Option String → Except SettingsError Settings
  | some path => load (files path)
  | none => .ok ((((usualPaths directory).map files).findSome? fun file => (load file).toOption).getD default)

theorem below_eq_ok_iff {files : String → FileContent} {directory asked : Option String} {s : Settings} :
    below files directory asked = .ok s ↔ Underneath files directory asked s := by
  cases asked with
  | some path => exact load_eq_ok_iff
  | none => rw [below, Except.ok.injEq, getD_findSome?_load_iff, Underneath]

/-- There is one lower layer at most. -/
theorem Underneath.unique {files : String → FileContent} {directory asked : Option String} {s t : Settings}
    (hs : Underneath files directory asked s) (ht : Underneath files directory asked t) : s = t :=
  Except.ok.inj ((below_eq_ok_iff.mpr hs).symm.trans (below_eq_ok_iff.mpr ht))

end Settings

end QueryDesk
