import EventHub.Pattern.Charset

/-!
# Matching patterns

A part is matched at a place together with everything that has to follow it: it tries its ways in
order, and the first one after which the rest succeeds is taken. What groups have taken is kept in
marks, which a way that failed leaves as they were.

* `Node.matchAt`: a part followed by the rest of the pattern.
* `Pattern.search`: is there a match anywhere in a text?
-/

namespace EventHub.Pattern

/-- The places where groups began and ended, latest first. -/
abbrev Marks := List (Nat × Nat)

/-- Where a group begins has an even number, where it ends an odd one. -/
def markOf (index : Nat) (atEnd : Bool) : Nat := 2 * index + if atEnd then 1 else 0

/-- What a group has taken, if it has taken something. -/
def Marks.taken (m : Marks) (index : Nat) : Option (Nat × Nat) :=
  match m.lookup (markOf index false), m.lookup (markOf index true) with
  | some i, some j => if i ≤ j then some (i, j) else none
  | _, _ => none

/-- The rest of a match: from a place on, with the marks that were made, to where it ends. -/
abbrev Rest := Nat → Marks → Option (Nat × Marks)

/-- The end of a match. -/
def Rest.done : Rest := fun i m => some (i, m)

/-- The first of two ways that succeeds. -/
def Rest.orElse (a b : Rest) : Rest := fun i m =>
  match a i m with
  | some found => some found
  | none => b i m

/-- What a pattern is matched against. -/
structure Scene where
  text : Array Nat
  groups : List (Option Width)

/-- The most rounds that a repetition can go through: beyond its least number it stops when a
round has taken nothing. -/
def Scene.rounds (s : Scene) (least : Nat) : Nat := least + s.text.size + 2

/-- Is there a word character at a place? -/
def Scene.isWordAt (s : Scene) (ascii : Bool) (i : Nat) : Bool :=
  match s.text[i]? with
  | some code => Category.word.holds ascii code
  | none => false

/-- Is there a line break at a place? -/
def Scene.breaksAt (s : Scene) (i : Nat) : Bool := s.text[i]? == some 10

/-- Do the word characters begin or end at a place? -/
def Scene.atBoundary (s : Scene) (ascii : Bool) (i : Nat) : Bool :=
  (i != 0 && s.isWordAt ascii (i - 1)) != s.isWordAt ascii i

/-- Is the place as the anchor wants it? A text of no characters has neither boundaries nor
insides of words. -/
def Anchor.holds (s : Scene) (o : Options) (i : Nat) : Anchor → Bool
  | .start => i == 0 || (o.multiline && s.breaksAt (i - 1))
  | .finish =>
    i == s.text.size || (s.breaksAt i && (o.multiline || i + 1 == s.text.size))
  | .textStart => i == 0
  | .textEnd => i == s.text.size
  | .boundary => s.text.size != 0 && s.atBoundary o.ascii i
  | .inside => s.text.size != 0 && !s.atBoundary o.ascii i

/-- Takes one character that meets a condition. -/
def takeIf (s : Scene) (p : Nat → Bool) (rest : Rest) : Rest := fun i m =>
  match s.text[i]? with
  | some code => if p code then rest (i + 1) m else none
  | none => none

/-- Do two stretches of the text hold the same characters? -/
def sameStretch (s : Scene) (o : Options) (i j : Nat) : Nat → Bool
  | 0 => true
  | n + 1 =>
    match s.text[i]?, s.text[j]? with
    | some a, some b =>
      (if o.ignoreCase then lowerCode o.ascii a == lowerCode o.ascii b else a == b) &&
        sameStretch s o (i + 1) (j + 1) n
    | _, _ => false

/-- May another round begin? `last` is where the round before began. -/
def mayGoOn (count : Nat) (most last : Option Nat) (i : Nat) : Bool :=
  (match most with
    | some n => count < n
    | none => true) && last != some i

/-- Rounds of `body`, as many as can be, and then the rest. -/
def greedyRounds (body : Rest → Rest) (rest : Rest) (least : Nat) (most : Option Nat) :
    Nat → Nat → Option Nat → Rest
  | 0, _, _ => fun _ _ => none
  | fuel + 1, count, last => fun i m =>
    if count < least then body (greedyRounds body rest least most fuel (count + 1) last) i m
    else if mayGoOn count most last i then
      Rest.orElse (body (greedyRounds body rest least most fuel (count + 1) (some i))) rest i m
    else rest i m

/-- Rounds of `body`, as few as can be, and then the rest. -/
def lazyRounds (body : Rest → Rest) (rest : Rest) (least : Nat) (most : Option Nat) :
    Nat → Nat → Option Nat → Rest
  | 0, _, _ => fun _ _ => none
  | fuel + 1, count, last => fun i m =>
    if count < least then body (lazyRounds body rest least most fuel (count + 1) last) i m
    else if mayGoOn count most last i then
      Rest.orElse rest (body (lazyRounds body rest least most fuel (count + 1) (some i))) i m
    else rest i m

/-- Rounds of `body`, as many as can be and each settled for good, and then the rest. -/
def possessiveRounds (body : Rest → Rest) (rest : Rest) (least : Nat) (most : Option Nat) :
    Nat → Nat → Option Nat → Rest
  | 0, _, _ => fun _ _ => none
  | fuel + 1, count, last => fun i m =>
    if count < least then
      match body .done i m with
      | some (j, m) => possessiveRounds body rest least most fuel (count + 1) last j m
      | none => none
    else if mayGoOn count most last i then
      match body .done i m with
      | some (j, m) => possessiveRounds body rest least most fuel (count + 1) (some i) j m
      | none => rest i m
    else rest i m

/-- Rounds of `body` in a manner, and then the rest. -/
def Manner.rounds (s : Scene) (manner : Manner) (least : Nat) (most : Option Nat)
    (body : Rest → Rest) (rest : Rest) : Rest :=
  match manner with
  | .greedy => greedyRounds body rest least most (s.rounds least) 0 none
  | .lazy => lazyRounds body rest least most (s.rounds least) 0 none
  | .possessive => possessiveRounds body rest least most (s.rounds least) 0 none

/-- A look that begins `back` characters before the place. -/
def lookAt (back : Nat) (negated : Bool) (body : Rest → Rest) (rest : Rest) : Rest := fun i m =>
  let seen := if back ≤ i then body .done (i - back) m else none
  match seen, negated with
  | some (_, m), false => rest i m
  | none, true => rest i m
  | _, _ => none

mutual

/-- A part, followed by the rest. -/
def Node.matchAt (s : Scene) : Options → Node → Rest → Rest
  | o, .one code, rest => takeIf s (holdsCode o code) rest
  | o, .allBut code, rest => takeIf s (fun c => !holdsCode o code c) rest
  | o, .any, rest => takeIf s (fun c => o.dotAll || c != 10) rest
  | o, .set negated members, rest => takeIf s (fun c => Charset.holds o members c != negated) rest
  | o, .anchor a, rest => fun i m => if a.holds s o i then rest i m else none
  | o, .branch alternatives, rest => matchAny s o alternatives rest
  | o, .group index on off body, rest =>
    match index with
    | none => matchRow s (o.change on off) body rest
    | some n => fun i m =>
      matchRow s (o.change on off) body (fun j m => rest j ((markOf n true, j) :: m)) i
        ((markOf n false, i) :: m)
  | o, .repetition manner least most body, rest =>
    manner.rounds s least most (fun rest => matchRow s o body rest) rest
  | o, .atomic body, rest => fun i m =>
    match matchRow s o body .done i m with
    | some (j, m) => rest j m
    | none => none
  | o, .look behind negated body, rest =>
    let back := if behind then (widthOfRow s.groups body).least else 0
    lookAt back negated (fun rest => matchRow s o body rest) rest
  | o, .reference index, rest => fun i m =>
    match Marks.taken m index with
    | some (a, b) => if sameStretch s o a i (b - a) then rest (i + (b - a)) m else none
    | none => none
  | o, .conditional index yes no, rest => fun i m =>
    if (Marks.taken m index).isSome then matchRow s o yes rest i m else matchRow s o no rest i m

/-- A row of parts, followed by the rest. -/
def matchRow (s : Scene) : Options → List Node → Rest → Rest
  | _, [], rest => rest
  | o, node :: more, rest => node.matchAt s o (matchRow s o more rest)

/-- The first of several rows that the rest can follow. -/
def matchAny (s : Scene) : Options → List (List Node) → Rest → Rest
  | _, [], _ => fun _ _ => none
  | o, row :: more, rest => Rest.orElse (matchRow s o row rest) (matchAny s o more rest)

end

end EventHub.Pattern

namespace EventHub

/-- Does the pattern match somewhere in the text? -/
def Pattern.search (p : Pattern) (s : String) : Bool :=
  let scene : Pattern.Scene := ⟨(s.toList.map Char.toNat).toArray, p.groups⟩
  (List.range (scene.text.size + 1)).any fun i =>
    (Pattern.matchRow scene p.options p.row .done i []).isSome

end EventHub
