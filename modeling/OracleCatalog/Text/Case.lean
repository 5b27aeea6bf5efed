import OracleCatalog.Text.CaseTable

/-!
# Letter case

Full case mapping: a character may become several (`ß` becomes `SS`), and a capital sigma becomes
the final small sigma exactly when a cased character stands before it and none after it,
case-ignorable characters not counted.
-/

namespace OracleCatalog.Text

/-! ### One character -/

def CaseRun.maps (run : CaseRun) (n : Nat) : Bool :=
  run.first ≤ n && n ≤ run.last && (n - run.first) % run.step == 0

/-- The image of a character under the expansions, else under the runs, else the character. -/
def mapCase (expansions : List (Nat × List Nat)) (runs : List CaseRun) (c : Char) : List Char :=
  match expansions.lookup c.toNat with
  | some codes => codes.map Char.ofNat
  | none =>
    match runs.find? (·.maps c.toNat) with
    | some run => [Char.ofNat ((c.toNat : Int) + run.shift).toNat]
    | none => [c]

/-- The capital form of a character. -/
def upperChar (c : Char) : List Char := mapCase upperExpansions upperRuns c

/-- The small form of a character that is not a capital sigma. -/
def lowerChar (c : Char) : List Char := mapCase lowerExpansions lowerRuns c

/-! ### Texts -/

def upper (s : String) : String := String.ofList (s.toList.flatMap upperChar)

/-- Whether the first character that is not case-ignorable is cased. -/
def startsCased : List Char → Bool
  | [] => false
  | c :: cs => if caseIgnorableSpans.covers c then startsCased cs else casedSpans.covers c

/-- Small letters; `cased` says whether the last character that counts was cased. -/
def lowerChars (cased : Bool) : List Char → List Char
  | [] => []
  | c :: cs =>
    let here := if c = 'Σ' then [if cased && !startsCased cs then 'ς' else 'σ'] else lowerChar c
    let after := if caseIgnorableSpans.covers c then cased else casedSpans.covers c
    here ++ lowerChars after cs

/-- The text in small letters. -/
def lower (s : String) : String := String.ofList (lowerChars false s.toList)

end OracleCatalog.Text
