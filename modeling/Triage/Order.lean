/-!
# Order

The first of the least elements, and sorting that keeps equal elements in their order. Where elements
do not compare, sorting goes on from the run at the front: it inserts each further element by halving.
-/

namespace Triage.Order

variable {α : Type}

/-- The first element of least rank. -/
def leastBy? (rank : α → Nat) : List α → Option α
  | [] => none
  | a :: rest =>
    match leastBy? rank rest with
    | none => some a
    | some b => if rank b < rank a then some b else some a

/-- Sorts by an order in which any two elements compare. -/
def sort (less : α → α → Bool) (xs : List α) : List α := xs.mergeSort fun a b => !less b a

/-- The elements of the run at the front: rising, or strictly falling. -/
def frontRun (less : α → α → Bool) (falling : Bool) (previous : α) : List α → List α
  | [] => []
  | a :: rest => if less a previous == falling then a :: frontRun less falling a rest else []

/-- The place of an element between `low` and `high`, found by halving. -/
def placeOf (less : α → α → Bool) (sorted : Array α) (a : α) : (fuel low high : Nat) → Nat
  | 0, low, _ => low
  | fuel + 1, low, high =>
    if low < high then
      let middle := low + (high - low) / 2
      match sorted[middle]? with
      | some b =>
        if less a b then placeOf less sorted a fuel low middle
        else placeOf less sorted a fuel (middle + 1) high
      | none => low
    else low

def insertAll (less : α → α → Bool) (sorted : Array α) : List α → Array α
  | [] => sorted
  | a :: rest =>
    insertAll less (sorted.insertIdxIfInBounds (placeOf less sorted a sorted.size 0 sorted.size) a) rest

/-- Sorts elements some of which may not compare. -/
def sortLoosely (less : α → α → Bool) : List α → List α
  | a :: b :: rest =>
    let falling := less b a
    let run := a :: frontRun less falling a (b :: rest)
    let front := if falling then run.reverse else run
    (insertAll less front.toArray ((a :: b :: rest).drop run.length)).toList
  | xs => xs

end Triage.Order
