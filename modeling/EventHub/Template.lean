import EventHub.Json.Encode
import EventHub.Text.Word
import EventHub.Value.Path

/-!
# Templates

A token is a path between double braces. A text that is one token becomes the value that the path
leads to; in other texts a token is replaced by its value in writing. A token that leads nowhere
stays as it is, and what is put in is never read for tokens again.

* `Value.resolve`: a value with the tokens of all its texts resolved.
* `resolvePieces_nil`: an empty text stays empty.
* `Value.resolve_int`: numbers stay as they are.
-/

namespace EventHub

/-- A token of a template: its path, and its length in characters. -/
structure Token where
  path : List Char
  length : Nat
deriving DecidableEq, Repr

/-- Can the character stand in the path of a token? -/
def isPathChar (c : Char) : Bool := Text.isWord c || c == '.' || c == '-'

/-- The token at the start of a text, if one is there. -/
def token? : List Char → Option Token
  | '\x7b' :: '\x7b' :: rest =>
    let inner := rest.dropWhile Text.isBlank
    let path := inner.takeWhile isPathChar
    match path.isEmpty, (inner.dropWhile isPathChar).dropWhile Text.isBlank with
    | false, '\x7d' :: '\x7d' :: after => some ⟨path, rest.length + 2 - after.length⟩
    | _, _ => none
  | _ => none

/-- The token that is the whole text, if it is one. -/
def wholeToken? (cs : List Char) : Option Token :=
  (token? cs).filter fun t => t.length == cs.length

/-- A value in writing: a text as it is, all else as JSON. -/
def Value.rendered : Value → Except Fault (List Char)
  | .text s => .ok s.toList
  | .record kind fields => ((Value.record kind fields).wire false).json
  | v => v.json

/-- Replaces the tokens of a text, after `skip` characters that belong to the last token. -/
def resolvePieces (values : Value) : Nat → List Char → Except Fault (List Char)
  | _, [] => .ok []
  | skip + 1, _ :: rest => resolvePieces values skip rest
  | 0, c :: rest =>
    match token? (c :: rest) with
    | none => do .ok (c :: (← resolvePieces values 0 rest))
    | some token => do
      let put ← match ← values.lookupChars token.path with
        | some v => v.rendered
        | none => .ok ((c :: rest).take token.length)
      .ok (put ++ (← resolvePieces values (token.length - 1) rest))

/-- Resolves the tokens of a text. -/
def resolveText (values : Value) (s : String) : Except Fault Value :=
  match wholeToken? (Text.stripChars s.toList) with
  | some token => do
    match ← values.lookupChars token.path with
    | some v => .ok v
    | none => .ok (.text s)
  | none => do .ok (.text (String.ofList (← resolvePieces values 0 s.toList)))

mutual

/-- The value with all tokens resolved. -/
def Value.resolve (values : Value) : Value → Except Fault Value
  | .text s => resolveText values s
  | .map fields => do .ok (.map (← Value.resolveFields values fields))
  | .list items => do .ok (.list (← Value.resolveItems values items))
  | .tuple items => do .ok (.tuple (← Value.resolveItems values items))
  | .table entries => do .ok (.table (← Value.resolveEntries values entries))
  | v => .ok v
termination_by structural v => v

/-- Every item resolved. -/
def Value.resolveItems (values : Value) : List Value → Except Fault (List Value)
  | [] => .ok []
  | v :: rest => do
    let v ← Value.resolve values v
    .ok (v :: (← Value.resolveItems values rest))
termination_by structural items => items

/-- Every entry of a map resolved; keys stay as they are. -/
def Value.resolveFields (values : Value) :
    List (String × Value) → Except Fault (List (String × Value))
  | [] => .ok []
  | (k, v) :: rest => do
    let v ← Value.resolve values v
    .ok ((k, v) :: (← Value.resolveFields values rest))
termination_by structural fields => fields

/-- Every entry of a table resolved; keys stay as they are. -/
def Value.resolveEntries (values : Value) :
    List (Value × Value) → Except Fault (List (Value × Value))
  | [] => .ok []
  | (k, v) :: rest => do
    let v ← Value.resolve values v
    .ok ((k, v) :: (← Value.resolveEntries values rest))
termination_by structural entries => entries

end

theorem resolvePieces_nil (values : Value) (skip : Nat) :
    resolvePieces values skip [] = .ok [] := by
  cases skip <;> rfl

theorem Value.resolve_int (values : Value) (n : Int) :
    Value.resolve values (.int n) = .ok (.int n) := by
  simp [Value.resolve]

end EventHub
