import EventHub.Text.LetterCase

/-!
# Search patterns

A pattern is a row of parts: characters, sets of characters, anchors, groups, repetitions, looks
ahead and behind, and references to what a group has taken.

* `Node.width`: the least and the greatest length of what a part can take.
-/

namespace EventHub.Pattern

/-- The options under which a part is read and matched. -/
structure Options where
  ignoreCase : Bool
  multiline : Bool
  dotAll : Bool
  verbose : Bool
  ascii : Bool
  unicode : Bool
  template : Bool
deriving DecidableEq, Repr

/-- No options. -/
def Options.blank : Options :=
  { ignoreCase := false, multiline := false, dotAll := false, verbose := false, ascii := false,
    unicode := false, template := false }

/-- The options of either. -/
def Options.union (a b : Options) : Options :=
  { ignoreCase := a.ignoreCase || b.ignoreCase, multiline := a.multiline || b.multiline,
    dotAll := a.dotAll || b.dotAll, verbose := a.verbose || b.verbose, ascii := a.ascii || b.ascii,
    unicode := a.unicode || b.unicode, template := a.template || b.template }

/-- Does the option that tells the alphabet occur? -/
def Options.namesAlphabet (a : Options) : Bool := a.ascii || a.unicode

/-- The options with some turned on and some turned off. Of the two alphabets the one that is
turned on replaces the other. -/
def Options.change (a on off : Options) : Options :=
  { ignoreCase := (a.ignoreCase || on.ignoreCase) && !off.ignoreCase
    multiline := (a.multiline || on.multiline) && !off.multiline
    dotAll := (a.dotAll || on.dotAll) && !off.dotAll
    verbose := (a.verbose || on.verbose) && !off.verbose
    ascii := if on.namesAlphabet then on.ascii else a.ascii
    unicode := if on.namesAlphabet then on.unicode else a.unicode
    template := a.template }

/-- The classes of characters that have an escape. -/
inductive Category
  | digit | blank | word
deriving DecidableEq, Repr

/-- A member of a set of characters. -/
inductive Member
  | one (code : Nat)
  | range (low high : Nat)
  | category (c : Category) (negated : Bool)
deriving DecidableEq, Repr

/-- The places between characters. -/
inductive Anchor
  | start | finish | textStart | textEnd | boundary | inside
deriving DecidableEq, Repr

/-- How a repetition takes its items: as many as it can, as few as it can, or as many as it can
without giving any back. -/
inductive Manner
  | greedy | lazy | possessive
deriving DecidableEq, Repr

/-- A part of a pattern. -/
inductive Node
  | one (code : Nat)
  | allBut (code : Nat)
  | any
  | set (negated : Bool) (members : List Member)
  | anchor (a : Anchor)
  | branch (alternatives : List (List Node))
  | group (index : Option Nat) (on off : Options) (body : List Node)
  | repetition (manner : Manner) (least : Nat) (most : Option Nat) (body : List Node)
  | atomic (body : List Node)
  | look (behind negated : Bool) (body : List Node)
  | reference (index : Nat)
  | conditional (index : Nat) (yes no : List Node)

/-- Are two parts the same single character, set, anchor or reference? -/
def Node.isSame : Node → Node → Bool
  | .one a, .one b => a == b
  | .allBut a, .allBut b => a == b
  | .any, .any => true
  | .set m a, .set n b => m == n && a == b
  | .anchor a, .anchor b => a == b
  | .reference a, .reference b => a == b
  | _, _ => false

/-- The least and the greatest length of what something can take; the greatest may be missing. -/
structure Width where
  least : Nat
  most : Option Nat
deriving DecidableEq, Repr

namespace Width

/-- The width of nothing. -/
def zero : Width := ⟨0, some 0⟩

/-- The width of one character. -/
def single : Width := ⟨1, some 1⟩

/-- One after the other. -/
def append (a b : Width) : Width :=
  ⟨a.least + b.least, a.most.bind fun x => b.most.map fun y => x + y⟩

/-- One or the other. -/
def either (a b : Width) : Width :=
  ⟨min a.least b.least, a.most.bind fun x => b.most.map fun y => max x y⟩

/-- Some number of times. -/
def times (a : Width) (least : Nat) (most : Option Nat) : Width :=
  ⟨a.least * least, match a.most, most with
    | some 0, _ | _, some 0 => some 0
    | some x, some n => some (x * n)
    | _, _ => none⟩

/-- Is there only one length? -/
def isFixed (a : Width) : Bool := a.most == some a.least

end Width

mutual

/-- The width of a part; `groups` holds the widths of the groups. -/
def Node.width (groups : List (Option Width)) : Node → Width
  | .one _ | .allBut _ | .any | .set _ _ => .single
  | .anchor _ | .look _ _ _ => .zero
  | .branch alternatives => widthOfAny groups alternatives
  | .group _ _ _ body | .atomic body => widthOfRow groups body
  | .repetition _ least most body => (widthOfRow groups body).times least most
  | .reference index => ((groups[index - 1]?).bind id).getD .zero
  | .conditional _ yes no => (widthOfRow groups yes).either (widthOfRow groups no)

/-- The width of a row of parts. -/
def widthOfRow (groups : List (Option Width)) : List Node → Width
  | [] => .zero
  | node :: rest => (node.width groups).append (widthOfRow groups rest)

/-- The width of alternatives. -/
def widthOfAny (groups : List (Option Width)) : List (List Node) → Width
  | [] => .zero
  | [row] => widthOfRow groups row
  | row :: rest => (widthOfRow groups row).either (widthOfAny groups rest)

end

mutual

/-- Has every look behind in a part only one length? -/
def Node.looksAreFixed (groups : List (Option Width)) : Node → Bool
  | .branch alternatives => looksAreFixedInAny groups alternatives
  | .group _ _ _ body | .atomic body | .repetition _ _ _ body => looksAreFixedIn groups body
  | .look behind _ body =>
    (!behind || (widthOfRow groups body).isFixed) && looksAreFixedIn groups body
  | .conditional _ yes no => looksAreFixedIn groups yes && looksAreFixedIn groups no
  | _ => true

/-- Has every look behind in a row only one length? -/
def looksAreFixedIn (groups : List (Option Width)) : List Node → Bool
  | [] => true
  | node :: rest => node.looksAreFixed groups && looksAreFixedIn groups rest

/-- Has every look behind in alternatives only one length? -/
def looksAreFixedInAny (groups : List (Option Width)) : List (List Node) → Bool
  | [] => true
  | row :: rest => looksAreFixedIn groups row && looksAreFixedInAny groups rest

end

end EventHub.Pattern

namespace EventHub

/-- A pattern with its options and the widths of its groups. -/
structure Pattern where
  options : Pattern.Options
  groups : List (Option Pattern.Width)
  row : List Pattern.Node

end EventHub
