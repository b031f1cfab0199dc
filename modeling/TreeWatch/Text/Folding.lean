import TreeWatch.Text.CaseTable
import TreeWatch.Text.Lowercase

/-!
# Letters that differ in case only

`foldOrbit` lists the code points that are taken for one another when patterns ignore case.
-/

namespace TreeWatch.Text

def foldRuns : List CaseRun := extraFoldRuns ++ lowerRuns

/-- The code point that stands for all that differ from it in case only. -/
def foldCode (c : Nat) : Nat := partnerIn foldRuns c

def CaseRun.source? (r : CaseRun) (c : Nat) : Option Nat :=
  let s := (c - r.shift).toNat
  if r.contains s && r.partner s == c then some s else none

/-- The code points that differ from this one in case only, among them itself. -/
def foldOrbit (c : Nat) : List Nat :=
  let f := foldCode c
  f :: foldRuns.filterMap (·.source? f)

end TreeWatch.Text
