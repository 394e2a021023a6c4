import CheckDoc.Cli.Run
import Mathlib.Data.List.TakeWhile

/-!
# Printed lines

A line is printed as a whole where the encoding of the standard output has octets for each of its
characters (`Cli.World.takes_iff`), and otherwise it ends the run. So lines are either all printed, or
up to the first one that is not taken (`Cli.World.takes_or`), and what is told of a document follows
from that (`Cli.World.tell_of_takes`, `Cli.World.tell_of_refuses`).
-/

namespace CheckDoc

/-- All members of a list have a property, or there is a first one that lacks it. -/
theorem forall_or_exists_first {α : Type} (P : α → Prop) (l : List α) :
    (∀ x ∈ l, P x) ∨
      ∃ before x after, l = before ++ x :: after ∧ (∀ y ∈ before, P y) ∧ ¬ P x := by
  induction l with
  | nil => exact .inl nofun
  | cons a l ih =>
    by_cases ha : P a
    · obtain hall | ⟨before, x, after, rfl, hbefore, hx⟩ := ih
      · exact .inl (List.forall_mem_cons.2 ⟨ha, hall⟩)
      · exact .inr ⟨a :: before, x, after, rfl, List.forall_mem_cons.2 ⟨ha, hbefore⟩, hx⟩
    · exact .inr ⟨[], a, l, rfl, nofun, ha⟩

namespace Cli

variable {w : World} {lines before after : List String} {line : String}
  {fault : Text.EncodingFault} {ending : DocumentEnd}

/-- The standard output takes a line. -/
def World.Takes (w : World) (line : String) : Prop := w.stdout.fault? line.toList = none

namespace World

/-- Lines that are taken are printed. -/
theorem print_of_takes (h : ∀ l ∈ lines, w.Takes l) : w.print lines = (lines, none) := by
  induction lines with
  | nil => rfl
  | cons l lines ih =>
    obtain ⟨hl, hrest⟩ := List.forall_mem_cons.1 h
    rw [print, hl, ih hrest]

/-- Lines are printed up to one that is not taken. -/
theorem print_of_refuses (hbefore : ∀ l ∈ before, w.Takes l)
    (hline : w.stdout.fault? line.toList = some fault) :
    w.print (before ++ line :: after) = (before, some fault) := by
  induction before with
  | nil => rw [List.nil_append, print, hline]
  | cons l before ih =>
    obtain ⟨hl, hrest⟩ := List.forall_mem_cons.1 hbefore
    rw [List.cons_append, print, hl, ih hrest]

/-- Lines are all taken, or there is a first one that is not. -/
theorem takes_or (w : World) (lines : List String) :
    (∀ l ∈ lines, w.Takes l) ∨ ∃ before line after fault, lines = before ++ line :: after ∧
      (∀ l ∈ before, w.Takes l) ∧ w.stdout.fault? line.toList = some fault := by
  refine (forall_or_exists_first w.Takes lines).imp id ?_
  rintro ⟨before, line, after, hlines, hbefore, hline⟩
  obtain ⟨fault, hfault⟩ := Option.ne_none_iff_exists'.1 hline
  exact ⟨before, line, after, fault, hlines, hbefore, hfault⟩

/-- A document whose lines are taken comes out as it does. -/
theorem tell_of_takes (h : ∀ l ∈ lines, w.Takes l) (ending : DocumentEnd) :
    w.tell lines ending = ⟨.told lines, ending⟩ := by
  rw [tell, print_of_takes h]

/-- A line that is not taken ends the run, with the lines before it. -/
theorem tell_of_refuses (hbefore : ∀ l ∈ before, w.Takes l)
    (hline : w.stdout.fault? line.toList = some fault) (after : List String)
    (ending : DocumentEnd) :
    w.tell (before ++ line :: after) ending = ⟨.told before, .escaped (.output fault)⟩ := by
  rw [tell, print_of_refuses hbefore hline]

/-- What is told of a document depends on the encoding only. -/
theorem tell_congr {v : World} (h : v.stdout = w.stdout) (lines : List String)
    (ending : DocumentEnd) : v.tell lines ending = w.tell lines ending := by
  have hprint : v.print lines = w.print lines := by
    induction lines with
    | nil => rfl
    | cons l lines ih => rw [print, print, h, ih]
  rw [tell, tell, hprint]

end World

end Cli

end CheckDoc
