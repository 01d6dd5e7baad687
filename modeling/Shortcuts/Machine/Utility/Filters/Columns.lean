import Shortcuts.Machine.Utility.Filters.Lines

/-!
# Columns

Programs that take columns out of lines and put lines side by side.
-/

namespace Shortcuts.Machine.Filters

open Text

/-- A list of numbers and ranges. -/
def ranges? (s : Octets) : Option (List (Nat × Option Nat)) :=
  (pieces ',' s).mapM fun part =>
    match cut '-' part with
    | none => (decimalNat? part).map fun n => (n, some n)
    | some ([], b) => (decimalNat? b).map fun n => (1, some n)
    | some (a, []) => (decimalNat? a).map fun n => (n, none)
    | some (a, b) => do return (← decimalNat? a, some (← decimalNat? b))

def inRanges (ranges : List (Nat × Option Nat)) (n : Nat) : Bool :=
  ranges.any fun (low, high) => low ≤ n && high.all fun h => n ≤ h

def chosen {α : Type} (ranges : List (Nat × Option Nat)) (parts : List α) : List α :=
  (parts.zipIdx.filter fun x => inRanges ranges (x.2 + 1)).map Prod.fst

def cutColumns (p : Process) : Task Nat :=
  let rule : OptionRule :=
    { flags := "sn", valued := "fdcb",
      long := [("fields", 'f'), ("delimiter", 'd'), ("characters", 'c'), ("bytes", 'b'),
        ("only-delimited", 's')] }
  p.withOptions rule 1 fun g => do
    let spec := ((g.value? 'f').orElse fun _ => g.value? 'c').orElse fun _ => g.value? 'b'
    match spec with
    | none => do
      p.misuse (octets "you must specify a list of bytes, characters, or fields")
      return 1
    | some spec =>
      match ranges? spec with
      | none => do
        p.misuse (phrase "invalid field value " (ticked spec) "")
        return 1
      | some ranges =>
        let separator := ((g.value? 'd').bind List.head?).getD '\t'
        eachInput p g plainWording fun _ text =>
          p.out (unlines (((linesOf text).map bare).filterMap fun line =>
            if g.has 'f' then
              if separator ∈ line then
                some ([separator].intercalate (chosen ranges (pieces separator line)))
              else if g.has 's' then none
              else some line
            else some (chosen ranges line)))

/-- Lines of several inputs side by side, or with `-s` each input in one line. -/
def paste (p : Process) : Task Nat :=
  p.withOptions { flags := "s", valued := "d", long := [("serial", 's'), ("delimiters", 'd')] } 1
    fun g => do
    let separator := ((g.value? 'd').bind List.head?).getD '\t'
    let texts ← (inputs g).mapM fun name => p.readNamed name
    let columns := texts.map fun t => match t with
      | .ok text => (linesOf text).map bare
      | .error _ => []
    let rows := if g.has 's' then columns.map fun c => [separator].intercalate c
      else (List.range ((columns.map List.length).foldl max 0)).map fun i =>
        [separator].intercalate (columns.map fun column => (column[i]?).getD [])
    p.out (unlines rows)
    return 0

end Shortcuts.Machine.Filters
