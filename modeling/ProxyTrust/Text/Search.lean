/-
  Cutting a list at a part of it.

  `cutFirst?` finds the first place where a needle begins, `cutLast?` the last place of one
  element, and `chunks` cuts a list into rows of one length (the last row may be shorter).

  All are by recursion on the list, with what stands before the cut handed back in order.  An
  empty needle begins everywhere, so that it cuts at the front; an empty list has no rows.
-/

namespace ProxyTrust.Text

variable {α : Type} [DecidableEq α]

/-- The rest after `lead`, if the list begins with it. -/
def dropLead? : (lead s : List α) → Option (List α)
  | [], s => some s
  | _ :: _, [] => none
  | a :: lead, b :: s => if a = b then dropLead? lead s else none

/-- What lies before and after the first occurrence of `needle`. -/
def cutFirst? (needle : List α) : List α → Option (List α × List α)
  | [] => (dropLead? needle []).map fun rest => ([], rest)
  | a :: s =>
    match dropLead? needle (a :: s) with
    | some rest => some ([], rest)
    | none => (cutFirst? needle s).map fun cut => (a :: cut.1, cut.2)

/-- What lies before and after the last occurrence of one element. -/
def cutLast? (x : α) : List α → Option (List α × List α)
  | [] => none
  | a :: s =>
    match cutLast? x s with
    | some cut => some (a :: cut.1, cut.2)
    | none => if a = x then some ([], s) else none

/-- Rows of `width` elements. -/
def chunks (width : Nat) (width_pos : 0 < width) (s : List α) : List (List α) :=
  if _h : s = [] then [] else s.take width :: chunks width width_pos (s.drop width)
termination_by s.length
decreasing_by
  have := List.length_pos_iff.2 _h
  simp only [List.length_drop]
  omega

example : cutFirst? [1, 2] [0, 1, 1, 2, 1, 2] = some ([0, 1], [1, 2]) := by decide
example : cutLast? 1 [0, 1, 2, 1, 3] = some ([0, 1, 2], [3]) := by decide

end ProxyTrust.Text
