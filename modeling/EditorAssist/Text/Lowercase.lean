import EditorAssist.Text.CaseTables

/-! Lower-casing of whole texts. One letter depends on its neighbours: a capital sigma at the end
of a word becomes the final sigma. -/
namespace EditorAssist

def CaseRun.covers (run : CaseRun) (c : Char) : Bool :=
  run.first ≤ c.toNat && c.toNat ≤ run.last && (c.toNat - run.first) % run.step == 0

/-- The lower-case form of a character on its own. Only the dotted capital I takes two characters.
-/
def lowerChar (c : Char) : Text :=
  if isAscii c then [c.toLower]
  else if c = '\u0130' then ['i', '\u0307']
  else match caseRuns.find? (·.covers c) with
    | some run => [Char.ofNat (c.toNat + run.offset).toNat]
    | none => [c]

/-- Whether the first character that case rules do not skip has case. -/
def meetsCased (t : Text) : Bool :=
  (t.dropWhile caseIgnorableRanges.covers).head?.any casedRanges.covers

/-- Lower-case a text that follows `before`, which is given last character first. -/
def lowerAfter (before : Text) : Text → Text
  | [] => []
  | c :: cs =>
    let lowered :=
      if c = '\u03a3' then
        if meetsCased before && !meetsCased cs then ['\u03c2'] else ['\u03c3']
      else lowerChar c
    lowered ++ lowerAfter (c :: before) cs

def Text.lower (t : Text) : Text :=
  lowerAfter [] t

def lowerString (s : String) : String :=
  String.ofList (Text.lower s.toList)

end EditorAssist
