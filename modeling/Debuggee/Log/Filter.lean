import Debuggee.Log.Directive

/-!
Log filters: directives ordered so that the most specific one that applies comes first. A later
directive replaces an earlier one for the same things.
-/

namespace Debuggee.Log

/-- Directives, the most specific one first, and the most verbose level ever added. -/
structure Directives where
  items : List Directive := []
  maxLevel : Level := .off
  deriving DecidableEq, Repr

def insertDirective (directive : Directive) : List Directive → List Directive
  | [] => [directive]
  | other :: items =>
    match directive.compare other with
    | .gt => directive :: other :: items
    | .eq => directive :: items
    | .lt => other :: insertDirective directive items

def Directives.add (directives : Directives) (directive : Directive) : Directives where
  items := insertDirective directive directives.items
  maxLevel := max directives.maxLevel directive.level

structure Event where
  level : Level
  target : String
  message : String
  fields : List String := ["message"]
  deriving DecidableEq, Repr

/--
A filter. Directives about spans are kept apart; one that asks only for a field also applies to
events with such a field.
-/
structure Filter where
  statics : Directives := {}
  dynamics : Directives := {}
  deriving DecidableEq, Repr

namespace Filter

def add (filter : Filter) (directive : Directive) : Filter where
  statics :=
    if directive.span.isSome || directive.hasValue then filter.statics
    else filter.statics.add directive
  dynamics := if directive.isDynamic then filter.dynamics.add directive else filter.dynamics

def maxLevel (filter : Filter) : Level :=
  if filter.dynamics.items.any Directive.hasValue then .trace
  else max filter.statics.maxLevel filter.dynamics.maxLevel

def text (filter : Filter) : String :=
  ",".intercalate ((filter.statics.items ++ filter.dynamics.items).map Directive.text)

def applies (directive : Directive) (event : Event) : Bool :=
  (directive.target.all fun target => target.toList.isPrefixOf event.target.toList) &&
    (directive.field.all fun field => event.fields.contains field.name)

def enabled (filter : Filter) (event : Event) : Bool :=
  match filter.statics.items.find? (applies · event) with
  | some directive => event.level ≤ directive.level
  | none => false

end Filter

def splitAtCommas (symbols : List Char) : List (List Char) :=
  symbols.foldr
    (fun symbol parts =>
      if symbol = ',' then [] :: parts
      else
        match parts with
        | [] => [[symbol]]
        | part :: parts => (symbol :: part) :: parts)
    [[]]

def directives? (list : String) : Option (List Directive) :=
  ((splitAtCommas list.toList).filter (!·.isEmpty)).mapM Directive.ofText?

def Filter.ofDirectives (directives : List Directive) : Filter :=
  directives.foldl Filter.add {}

def Filter.ofLevel (setting : String) : Filter :=
  match directives? (normalizeLevel setting) with
  | some directives => .ofDirectives directives
  | none => .ofDirectives [{ level := .info }]

/--
The filter for a level setting and the directives of the environment. Those of the environment
come later, so they replace the others; directives that cannot be read are left out as a whole.
-/
def Filter.ofSettings (setting : String) (environment : Option String) : Filter :=
  match environment.map Text.trim with
  | none => .ofLevel setting
  | some wanted =>
    if wanted.isEmpty then .ofLevel setting
    else
      match directives? (normalizeLevel setting ++ "," ++ wanted) with
      | some directives => .ofDirectives directives
      | none =>
        match directives? wanted with
        | some directives => .ofDirectives directives
        | none => .ofLevel setting

end Debuggee.Log
