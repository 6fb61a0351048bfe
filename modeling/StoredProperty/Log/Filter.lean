import StoredProperty.Log.Config
import StoredProperty.Log.Directive

/-!
# Filters of the log

A filter is a list of directives. Those that are not about spans, or ask only for a field to be there, decide on their
own: of the ones that match a target the most specific one gives the level, and a target that none matches is off. The
others let a span through and, while it is entered, every record up to their level. A text that cannot be read as a
filter stands for the configured level.
-/

namespace StoredProperty.Log

/-- How much a level lets through; no level lets nothing through. -/
def mostVerbose (level : Option Level) : Nat := (level.map Level.verbosity).getD 0

namespace Directive

def ofLevel (level : Level) : Directive := ⟨none, none, none, some level⟩

/-- The directive decides on its own, whatever spans are entered. -/
def isStatic (d : Directive) : Bool := d.span.isNone && d.field.all (·.value.isNone)

def isAboutSpans (d : Directive) : Bool := d.span.isSome || d.field.isSome

def hasValue (d : Directive) : Bool := d.field.any (·.value.isSome)

def matchesTarget (d : Directive) (target : String) : Bool :=
  d.target.all fun t => t.toList.isPrefixOf target.toList

/-- Every record has its message as a field. -/
def matchesRecord (d : Directive) (r : Record) : Bool :=
  d.matchesTarget r.target && d.field.all fun f => f.name = "message" || r.fields.any (·.1 = f.name)

def matchesSpan (d : Directive) (s : Span) : Bool :=
  d.matchesTarget s.target && d.span.all (· = s.name) && d.field.all fun f => s.fields.any (·.1 = f.name)

/-- How specific a directive is: the longer target first, then a field, the last one by name. Weights are compared from
the left. -/
def weight (d : Directive) : List Nat :=
  (d.target.map (·.length + 1)).getD 0 :: ((d.field.map fun f => 0 :: f.name.toList.map Char.toNat).getD [])

end Directive

abbrev Filter := List Directive

namespace Filter

open Directive

/-- The directives of a text, separated by commas; without any, errors only. -/
def read (s : String) : Except DirectiveError Filter := do
  let directives ← ((s.toList.splitOn ',').filter (!·.isEmpty)).mapM Directive.read
  return if directives.isEmpty then [ofLevel .error] else directives

/-- The filter of a configuration; there is none where a directive splits a character. -/
def ofConfig? (c : Config) : Option Filter :=
  match c.filter.map read with
  | some (.ok f) => some f
  | some (.error .splitCharacter) => none
  | some (.error .malformed) | none => some [ofLevel c.level]

/-- The most specific of some directives, the later one of two that are equally so. -/
def mostSpecific? (ds : List Directive) : Option Directive :=
  ds.foldl (fun best d => if best.any fun b => weight d < weight b then best else some d) none

def staticallyAllows (f : Filter) (isMatch : Directive → Bool) (level : Level) : Bool :=
  (mostSpecific? (f.filter fun d => d.isStatic && isMatch d)).any (level.verbosity ≤ mostVerbose ·.level)

/-- The directives that are about a span, of the ones that differ in their level alone the last. -/
def about (s : Span) : Filter → List Directive
  | [] => []
  | d :: f =>
    let replaced := f.any fun e => e.target = d.target && e.span = d.span && e.field = d.field
    if d.isAboutSpans && d.matchesSpan s && !replaced then d :: about s f else about s f

/-- What a span lets through while it is entered. -/
def within (f : Filter) (s : Span) : Nat :=
  ((f.about s).filter fun d => d.field.all (·.meets s.fields)).foldl (fun n d => max n (mostVerbose d.level)) 0

/-- The most that is let through anywhere. Any value of a field may still turn up, whatever the level. -/
def limit (f : Filter) : Nat :=
  if f.any hasValue then Level.trace.verbosity else f.foldl (fun n d => max n (mostVerbose d.level)) 0

/-- A span is let through under the spans around it, which let through as much as is given. -/
def allowsSpan (f : Filter) (around : List Nat) (s : Span) : Bool :=
  s.level.verbosity ≤ f.limit
    && (!(f.about s).isEmpty || f.staticallyAllows (matchesTarget · s.target) s.level
      || around.any (s.level.verbosity ≤ ·))

def allowsRecord (f : Filter) (around : List Nat) (r : Record) : Bool :=
  f.staticallyAllows (matchesRecord · r) r.level || around.any (r.level.verbosity ≤ ·)

end Filter

/-- A record that is written, with the spans around it from the outermost on. -/
structure Line where
  record : Record
  spans : List Span
  deriving DecidableEq

/-- The lines that a filter lets through. A span that it does not let through leaves its records outside. -/
def Filter.lines (f : Filter) : List Entry → List Line := go none []
where
  go (opened : Option Span) (spans : List (Option Span)) : List Entry → List Line
    | [] => []
    | .record r :: rest =>
      let around := spans.filterMap id
      let lines := go opened spans rest
      if f.allowsRecord (around.map f.within) r then ⟨r, around.reverse⟩ :: lines else lines
    | .opened s :: rest =>
      go (if f.allowsSpan ((spans.filterMap id).map f.within) s then some s else none) spans rest
    | .entered :: rest => go none (opened :: spans) rest
    | .exited :: rest => go opened spans.tail rest

end StoredProperty.Log
