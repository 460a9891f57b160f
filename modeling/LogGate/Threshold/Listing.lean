import LogGate.Failure
import LogGate.Text.Blank
import LogGate.Text.Split

/-!
Threshold listings: entries `value=LEVEL` separated by commas, as one text.
-/

namespace LogGate.Listing

/-- An entry needs an equals sign with more than white space on both sides of the last one. -/
def readEntry (entry : List Char) : Except Failure (String × String) :=
  match Text.cutAtLast '=' entry with
  | some (value, level) =>
    if value.all Text.isBlankChar || level.all Text.isBlankChar then
      .error (.misconfigured (.malformedEntry (String.ofList entry)))
    else .ok (String.ofList (Text.trimChars value), String.ofList (Text.trimChars level))
  | none => .error (.misconfigured (.malformedEntry (String.ofList entry)))

/-- Blank pieces are no entries. -/
def readPieces : List (List Char) → Except Failure (List (String × String))
  | [] => .ok []
  | piece :: rest =>
    if piece.all Text.isBlankChar then readPieces rest
    else (readEntry (Text.trimChars piece)).bind fun entry =>
      (readPieces rest).map fun entries => entry :: entries

def read (listing : String) : Except Failure (List (String × String)) :=
  readPieces (Text.pieces ',' listing.toList)

/-- One entry as it is written. -/
def entryText (value level : String) : String :=
  value ++ "=" ++ level

/-- Values that count as false list nothing; no value but a text can list something. -/
def readValue (value : Value) : Except Failure (List (String × String)) :=
  if value.isTrue then
    match value with
    | .text listing => read listing
    | .bytes _ => .error .unsuitable
    | _ => .error .memberMissing
  else .ok []

end LogGate.Listing
