/-! Stable sorting. A list whose keys all compare is sorted by merging. A key that compares with
nothing makes the outcome depend on the comparisons made: those of binary insertion behind the
run that the list starts with. -/
namespace TableServer.Sorting

variable {α : Type}

/-- The longest start in which no element is less than the one before it, or each is. -/
def ascendingRun (lt : α → α → Bool) (last : α) : List α → List α × List α
  | [] => ([], [])
  | x :: rest =>
      if lt x last then ([], x :: rest)
      else
        let (run, tail) := ascendingRun lt x rest
        (x :: run, tail)

def descendingRun (lt : α → α → Bool) (last : α) : List α → List α × List α
  | [] => ([], [])
  | x :: rest =>
      if lt x last then
        let (run, tail) := descendingRun lt x rest
        (x :: run, tail)
      else ([], x :: rest)

def startingRun (lt : α → α → Bool) : List α → List α × List α
  | [] => ([], [])
  | [x] => ([x], [])
  | x :: y :: rest =>
      if lt y x then
        let (run, tail) := descendingRun lt x (y :: rest)
        ((x :: run).reverse, tail)
      else
        let (run, tail) := ascendingRun lt x (y :: rest)
        (x :: run, tail)

/-- The place found by halving `low` to `high`: left of the middle when `before` holds there. -/
def bisect (before : Nat → Bool) (low high : Nat) : Nat :=
  if low < high then
    let middle := low + (high - low) / 2
    if before middle then bisect before low middle else bisect before (middle + 1) high
  else low
termination_by high - low

def insertBisected (lt : α → α → Bool) (sorted : List α) (x : α) : List α :=
  let place := bisect (fun i => (sorted[i]?.map (lt x)).getD false) 0 sorted.length
  sorted.take place ++ x :: sorted.drop place

def insertionSort (lt : α → α → Bool) (xs : List α) : List α :=
  let (run, rest) := startingRun lt xs
  rest.foldl (insertBisected lt) run

/-- Sorts so that equal elements keep their order. `comparable` tells the elements that compare. -/
def sort (comparable : α → Bool) (lt : α → α → Bool) (xs : List α) : List α :=
  if xs.all comparable then xs.mergeSort (fun a b => !lt b a) else insertionSort lt xs

/-- Sorts downwards; equal elements keep their order here too. -/
def sortDown (comparable : α → Bool) (lt : α → α → Bool) (xs : List α) : List α :=
  (sort comparable lt xs.reverse).reverse

def distinctTexts [DecidableEq α] [LT α] [DecidableLT α] (texts : List α) : List α :=
  texts.eraseDups.mergeSort (fun a b => !decide (b < a))

end TableServer.Sorting
