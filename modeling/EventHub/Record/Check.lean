import EventHub.Assoc
import EventHub.Number.Binary64
import EventHub.Record.Issue
import EventHub.Text.LetterCase
import EventHub.Text.Utf8
import EventHub.Value.Depth
import EventHub.Value.Show

/-!
# Checking values

A check turns a value into something of a fixed type or lists everything that is wrong with it.
Checks are lenient where the intent is clear: texts that write numbers are numbers, bytes that
write texts are texts, tuples and sets are lists.

* `Checked.both`: two checks side by side keep the issues of both.
* `field`: the value of a field, under its wire name or its own name.
* `checkText`, `checkBool`, `checkInt`, `checkList`, …: the checks of single values.
-/

namespace EventHub

/-- What a check gives: a result, or all issues in order. -/
abbrev Checked (α : Type) := Except (List Issue) α

namespace Checked

variable {α β γ : Type}

/-- Complains about the value itself. -/
def fail (complaint : Complaint) : Checked α := .error [⟨[], complaint⟩]

/-- The issues as they are seen from an enclosing value. -/
def within (step : String) : Checked α → Checked α
  | .ok a => .ok a
  | .error issues => .error (issues.map (Issue.within step))

/-- Both results, or the issues of both. -/
def both : Checked α → Checked β → Checked (α × β)
  | .ok a, .ok b => .ok (a, b)
  | .ok _, .error f => .error f
  | .error e, .ok _ => .error e
  | .error e, .error f => .error (e ++ f)

/-- Applies a checked function to a checked argument and keeps the issues of both. -/
def apply (f : Checked (α → β)) (a : Checked α) : Checked β :=
  match both f a with
  | .ok (f, a) => .ok (f a)
  | .error issues => .error issues

theorem apply_eq_ok {f : Checked (α → β)} {a : Checked α} {b : β} :
    apply f a = .ok b ↔ ∃ g x, f = .ok g ∧ a = .ok x ∧ g x = b := by
  cases f <;> cases a <;> simp [apply, both]

/-- Checks every item, at its index from `index` on. -/
def items (check : Value → Checked α) : Nat → List Value → Checked (List α)
  | _, [] => .ok []
  | index, v :: rest =>
    match both (within (toString index) (check v)) (items check (index + 1) rest) with
    | .ok (a, as) => .ok (a :: as)
    | .error issues => .error issues

end Checked

/-- The value of a field and the name that it was given by. The wire name wins. -/
def field (fields : Fields) (name : String) : Option (String × Value) :=
  match Assoc.get? fields (camelCase name) with
  | some v => some (camelCase name, v)
  | none => (Assoc.get? fields name).map fun v => (name, v)

/-- A field that has to be given. -/
def required {α : Type} (fields : Fields) (name : String) (check : Value → Checked α) :
    Checked α :=
  match field fields name with
  | some (given, v) => Checked.within given (check v)
  | none => .error [⟨[camelCase name], .missing⟩]

/-- A field with a default. -/
def defaulted {α : Type} (fields : Fields) (name : String) (default : α)
    (check : Value → Checked α) : Checked α :=
  match field fields name with
  | some (given, v) => Checked.within given (check v)
  | none => .ok default

/-- The entries of a value that stands for a record: those of a map, or those of such a record. -/
def recordEntries (kind : RecordKind) : Value → Checked Fields
  | .map fields => .ok fields
  | .table entries => .ok (Value.textEntries entries)
  | .record k fields => if k == kind then .ok fields else Checked.fail (.notRecord kind.name)
  | _ => Checked.fail (.notRecord kind.name)

/-! ## Single values -/

/-- Any value. -/
def checkAny (v : Value) : Checked Value := .ok v

/-- A text. -/
def checkText : Value → Checked String
  | .text s => .ok s
  | .bytes bs => match Text.decode? bs with
    | some s => .ok s
    | none => Checked.fail .textEncoding
  | _ => Checked.fail .notText

/-- A text that is not empty. -/
def checkName (v : Value) : Checked String :=
  match checkText v with
  | .ok s => if s.isEmpty then Checked.fail .emptyText else .ok s
  | .error issues => .error issues

/-- Null, or what the check takes. -/
def optional {α : Type} (check : Value → Checked α) : Value → Checked (Option α)
  | .null => .ok none
  | v => match check v with
    | .ok a => .ok (some a)
    | .error issues => .error issues

/-- The truth value that a word stands for. -/
def wordBool? (s : String) : Option Bool :=
  let word := String.ofList (s.toList.map Char.toLower)
  if ["1", "true", "t", "yes", "y", "on"].contains word then some true
  else if ["0", "false", "f", "no", "n", "off"].contains word then some false
  else none

/-- One more than the greatest integer of 64 bits. -/
def wordLimit : Int := 9223372036854775808

/-- The integers of 64 bits. -/
def isWord64 (n : Int) : Bool := -wordLimit ≤ n && n < wordLimit

/-- The truth value that a number stands for; numbers beyond 64 bits never do. -/
def numberBool (n : Int) : Checked Bool :=
  if n == 0 then .ok false
  else if n == 1 then .ok true
  else Checked.fail (if isWord64 n then .unclearBool else .notBool)

/-- The integer that a binary64 number is; it has to lie within 64 bits. -/
def wholeNumber (x : Float) : Checked Int :=
  match Number.Magnitude.ofFloat x with
  | .finite d =>
    if !d.isIntegral then Checked.fail .fractionalInt
    else if isWord64 d.truncate && d.truncate != -wordLimit then .ok d.truncate
    else Checked.fail .oversizedInt
  | _ => Checked.fail .infiniteInt

/-- The truth value of a word, if it is one. -/
def textBool (s : String) : Checked Bool :=
  match wordBool? s with
  | some b => .ok b
  | none => Checked.fail .unclearBool

/-- A truth value. -/
def checkBool : Value → Checked Bool
  | .bool b => .ok b
  | .text s => textBool s
  | .bytes bs => match Text.decode? bs with
    | some s => textBool s
    | none => Checked.fail .unclearBool
  | .int n => numberBool n
  | .float x => match wholeNumber x with
    | .ok n => numberBool n
    | .error _ => Checked.fail .notBool
  | _ => Checked.fail .notBool

/-- Is the character one of the blanks around numbers? -/
def isNumberBlank (c : Char) : Bool :=
  Text.isBlank c && !(28 ≤ c.toNat && c.toNat ≤ 31)

/-- Drops the blanks around a number. -/
def stripNumber (cs : List Char) : List Char :=
  ((cs.dropWhile isNumberBlank).reverse.dropWhile isNumberBlank).reverse

/-- The digits of a natural number without needless zeros, and the rest. -/
def leadingNumber : List Char → List Char × List Char
  | '0' :: rest => (['0'], rest)
  | cs => (cs.takeWhile Number.isAsciiDigit, cs.dropWhile Number.isAsciiDigit)

/-- The integer in its standard form: perhaps a minus sign, and digits without needless zeros. -/
def standardInt (cs : List Char) : Checked Int :=
  let (negative, cs) := match cs with
    | '-' :: rest => (true, rest)
    | cs => (false, cs)
  let (digits, rest) := leadingNumber cs
  if Number.maxIntDigits < digits.length then Checked.fail .oversizedInt
  else if digits.isEmpty || !rest.isEmpty then Checked.fail .unclearInt
  else .ok (if negative then -(Number.ofDigits digits : Int) else Number.ofDigits digits)

/-- The text without a plus sign at its start, which no minus sign may follow. -/
def withoutPlus? : List Char → Option (List Char)
  | '+' :: '-' :: _ => none
  | '+' :: rest => some rest
  | cs => some cs

/-- What follows the zeros and underscores at the start; `last` is the character before. A zero
before a point stays, and so does the last character of a text without anything else. -/
def dropZeros (last : Char) : List Char → Option (List Char)
  | [] => some [last]
  | c :: rest =>
    if c == '0' || c == '_' then dropZeros c rest
    else if Number.isAsciiDigit c || c == '-' then some (c :: rest)
    else if c == '.' then some (last :: c :: rest)
    else none

/-- The text without needless zeros at the start. -/
def withoutZeros : List Char → Option (List Char)
  | [] => none
  | c :: rest =>
    if c == '0' then dropZeros c rest
    else if Number.isAsciiDigit c || c == '-' then some (c :: rest)
    else none

/-- The text up to a point with nothing but zeros behind it. -/
def withoutFraction (cs : List Char) : List Char :=
  match cs.dropWhile (· != '.') with
  | _ :: c :: rest => if (c :: rest).all (· == '0') then cs.takeWhile (· != '.') else cs
  | _ => cs

/-- The text without underscores, where each of them is alone and inside. -/
def withoutUnderscores (cs : List Char) : List Char :=
  if Number.underscoresBetween (· != '_') false cs then cs.filter (· != '_') else cs

/-- The integer that a text writes: digits with single underscores, a sign and zeros before them,
and perhaps a fraction of zeros after them. -/
def textInt (s : String) : Checked Int :=
  let cs := stripNumber s.toList
  match standardInt cs with
  | .ok n => .ok n
  | .error [⟨[], .oversizedInt⟩] => Checked.fail .oversizedInt
  | .error _ =>
    match (withoutPlus? cs).bind withoutZeros |>.map fun cs =>
        standardInt (withoutUnderscores (withoutFraction cs)) with
    | some (.ok n) => .ok n
    | _ => Checked.fail .unclearInt

/-- An integer. -/
def checkInt : Value → Checked Int
  | .int n => .ok n
  | .bool b => .ok (if b then 1 else 0)
  | .text s => textInt s
  | .bytes bs => match Text.decode? bs with
    | some s => textInt s
    | none => Checked.fail .unclearInt
  | .float x => wholeNumber x
  | .nan _ => Checked.fail .infiniteInt
  | _ => Checked.fail .notInt

/-- A list of what the check takes. -/
def checkList {α : Type} (check : Value → Checked α) : Value → Checked (List α)
  | .list items | .tuple items | .set items => Checked.items check 0 items
  | _ => Checked.fail .notList

/-- A list of at least one item. -/
def checkSome {α : Type} (check : Value → Checked α) (v : Value) : Checked (List α) :=
  match checkList check v with
  | .ok [] => Checked.fail .emptyList
  | other => other

/-- The step that a key of a table makes in the path of an issue. -/
def keyStep : Value → String
  | .text s => s
  | .bool b => if b then "1" else "0"
  | v => v.shown

/-- The entries of a table, whose keys have to be texts. -/
def checkEntries : List (Value × Value) → Checked Fields
  | [] => .ok []
  | (k, v) :: rest =>
    match Checked.both (Checked.within (keyStep k) (Checked.within "[key]" (checkText k)))
        (checkEntries rest) with
    | .ok (name, fields) => .ok ((name, v) :: fields)
    | .error issues => .error issues

/-- A map. -/
def checkMap : Value → Checked Fields
  | .map fields => .ok fields
  | .table entries => (checkEntries entries).map Assoc.ofList
  | _ => Checked.fail .notMap

/-- A map, null standing for the empty one. -/
def checkMapOrNull : Value → Checked Fields
  | .null => .ok []
  | v => checkMap v

/-- The name of a function. -/
def checkFunction : Value → Checked String
  | .function name => .ok name
  | _ => Checked.fail .notCallable

/-- One of the given words. -/
def checkWord {α : Type} (words : List (String × α)) : Value → Checked α
  | .text s => match words.lookup s with
    | some a => .ok a
    | none => Checked.fail (.notAmong (words.map (·.1)))
  | _ => Checked.fail (.notAmong (words.map (·.1)))

theorem depth_checkEntries {entries : List (Value × Value)} {fields : Fields}
    (h : checkEntries entries = .ok fields) :
    Value.depthFields fields ≤ Value.depthEntries entries := by
  induction entries generalizing fields with
  | nil => cases h; simp [Value.depthFields]
  | cons e rest ih =>
    obtain ⟨k, v⟩ := e
    simp only [checkEntries] at h
    split at h
    · rename_i name more hb
      cases h
      cases hr : checkEntries rest with
      | error issues =>
        rw [hr] at hb
        cases hk : Checked.within (keyStep k) (Checked.within "[key]" (checkText k)) <;>
          simp [hk, Checked.both] at hb
      | ok found =>
        rw [hr] at hb
        cases hk : Checked.within (keyStep k) (Checked.within "[key]" (checkText k)) with
        | error issues => simp [hk, Checked.both] at hb
        | ok s =>
          simp only [hk, Checked.both, Except.ok.injEq, Prod.mk.injEq] at hb
          obtain ⟨-, rfl⟩ := hb
          have := ih hr
          simp only [Value.depthFields, Value.depthEntries]
          omega
    · simp at h

theorem depth_checkMap {v : Value} {fields : Fields} (h : checkMap v = .ok fields) :
    Value.depthFields fields < v.depth := by
  unfold checkMap at h
  split at h
  · cases h
    simp only [Value.depth]
    omega
  · rename_i entries
    cases he : checkEntries entries with
    | error issues => simp [he, Except.map] at h
    | ok found =>
      simp only [he, Except.map, Except.ok.injEq] at h
      subst h
      have h1 := depth_checkEntries he
      have h2 := Value.depth_ofList found
      simp only [Value.depth]
      omega
  · simp [Checked.fail] at h

theorem checkName_eq_ok {v : Value} {s : String} (h : checkName v = .ok s) : s.isEmpty = false := by
  unfold checkName at h
  split at h
  · split at h
    · simp [Checked.fail] at h
    · simp_all
  · simp at h

end EventHub
