import JavaDiagnostics.Source.Brackets

/-!
Anchors: what a problem is attached to in the source, with the stretches that a parser knows. From them,
and from the text where the parser does not know enough, come the spans on which problems are shown.
-/

set_option autoImplicit false

namespace JavaDiagnostics

inductive Anchor where
  | expression (range : Span)
  | name (range : Span)
  /-- A dotted name with the range of every part. -/
  | qualified (range : Span) (segments : List Span)
  /-- A type. The range ends with its name; type arguments follow it if there are any. -/
  | type (range : Span) (parameterized : Bool)
  | allocation (range type : Span)
  | call (range selector : Span)
  | field (range name : Span)
  | declaration (range name : Span)
deriving DecidableEq, Repr

namespace Anchor

def ofSegments (segments : List Span) : Anchor :=
  match segments.head?, segments.getLast? with
  | some first, some last => qualified (first.merge last) segments
  | _, _ => qualified ⟨0, 0⟩ segments

def range : Anchor → Span
  | expression range => range
  | name range => range
  | qualified range _ => range
  | type range _ => range
  | allocation range _ => range
  | call range _ => range
  | field range _ => range
  | declaration range _ => range

def span (scanner : Scanner) : Anchor → Span × Scanner
  | type range true =>
      let (stop, after) := scanner.closing range.stop
      (if range.stop < stop then ⟨range.start, stop⟩ else range, after)
  | call range selector => (⟨selector.start, range.stop⟩, scanner)
  | field _ own => (own, scanner)
  | declaration _ own => (own, scanner)
  | other => (other.range, scanner)

def segmentSpan (anchor : Anchor) (index : Nat) : Span :=
  match anchor with
  | qualified range segments => segments[index]?.getD range
  | other => other.range

def stretch? (start? stop? : Option Nat) : Option Span := do
  let start ← start?
  let stop ← stop?
  if start ≤ stop then some ⟨start, stop⟩ else none

def enclosed? (scanner : Scanner) (window : Span) : Option Span × Scanner :=
  let (start?, behind) := scanner.afterOpening window
  let (stop?, after) := behind.beforeClosing window
  (stretch? start? stop?, after)

def argumentsSpan (scanner : Scanner) : Anchor → Span × Scanner
  | allocation range created =>
      let (found, after) := enclosed? scanner ⟨created.stop + 1, range.stop⟩
      (found.getD range, after)
  | call range selector =>
      let (found, after) := enclosed? scanner ⟨selector.stop + 1, range.stop⟩
      (found.getD range, after)
  | other => (other.range, scanner)

end Anchor

end JavaDiagnostics
