import Worksheet.CommandLine.Run
import Worksheet.Proofs.CommandLine.Arguments
import Worksheet.Proofs.File.Writing
import Worksheet.Proofs.Sheet.Recording

/-!
# What a run leaves behind

Each part of a run is described by what holds when it comes to its end and what holds when it
fails.  All parts up to the saving of the sheet are quiet: they print nothing and change no
file.  Saving is quiet too if it fails, and printing, which comes last, cannot fail.

So a run that fails has printed nothing and has left all files as they are, however many of its
edits have been made, and a run that succeeds has changed at most the file that it was told to
write.  The fault of a formula in an edit is never a reason to fail.
-/

namespace Worksheet.CommandLine

namespace Program

variable {α β : Type} {program : Program α} {next : α → Program β} {before : Progress}

/-- From a state, a program comes to its end with one property, or it fails with another. -/
def Ends (program : Program α) (before : Progress) (done : α → Progress → Prop)
    (failed : Failure → Progress → Prop) : Prop :=
  match program.run before with
  | .ok value after => done value after
  | .error failure after => failed failure after

theorem Ends.bind {middle : α → Progress → Prop} {done : β → Progress → Prop}
    {failed : Failure → Progress → Prop} (first : Ends program before middle failed)
    (rest : ∀ value between, middle value between → Ends (next value) between done failed) :
    Ends (program >>= next) before done failed := by
  unfold Ends at first rest ⊢
  rw [EStateM.run_bind]
  cases result : program.run before with
  | ok value between =>
      rw [result] at first
      exact rest value between first
  | error failure between =>
      rw [result] at first
      exact first

theorem Ends.get {next : Progress → Program β} {done : β → Progress → Prop}
    {failed : Failure → Progress → Prop} (rest : Ends (next before) before done failed) :
    Ends (get >>= next) before done failed :=
  rest

theorem Ends.imp {done done' : α → Progress → Prop} {failed failed' : Failure → Progress → Prop}
    (ends : Ends program before done failed)
    (onDone : ∀ value after, done value after → done' value after)
    (onFailed : ∀ failure after, failed failure after → failed' failure after) :
    Ends program before done' failed' := by
  unfold Ends at ends ⊢
  cases result : program.run before with
  | ok value after =>
      rw [result] at ends
      exact onDone value after ends
  | error failure after =>
      rw [result] at ends
      exact onFailed failure after ends

end Program

open Program

variable {before after : Progress} {threshold : LogLevel} {sheet : Sheet}

/-- Nothing has been printed and no file has been changed. -/
structure Unmoved (before after : Progress) : Prop where
  output : after.output = before.output
  files : after.files = before.files

theorem Unmoved.refl (before : Progress) : Unmoved before before :=
  ⟨rfl, rfl⟩

theorem Unmoved.trans {between : Progress} (first : Unmoved before between)
    (second : Unmoved between after) : Unmoved before after :=
  ⟨second.output.trans first.output, second.files.trans first.files⟩

/-- At most the file that was asked for has been written. -/
def Writes (output : Option String) (before after : FileStore) : Prop :=
  (output = none → after = before) ∧
    ∀ path, output = some path → ∃ text, before.write path text = .ok after

/-- Writing a file that was asked for changes nothing at other places. -/
theorem Writes.entryAt? {output : Option String} {files written : FileStore}
    (writes : Writes output files written) {place : Place}
    (other : ∀ path, output = some path → place ≠ (PathName.ofText path).place) :
    written.entryAt? place = files.entryAt? place := by
  cases output with
  | none => rw [writes.1 rfl]
  | some path =>
      obtain ⟨text, wrote⟩ := writes.2 path rfl
      exact FileStore.entryAt?_write wrote (other path rfl)

end Worksheet.CommandLine
