import LiveLog.Text.Fold
import LiveLog.Log.Record

/-!
# Filters

What of the buffered log is shown. A filter has up to three criteria, and a record passes when it meets
every one that is set: a searched text occurs in its message, its level is the chosen one, its category
is the chosen one.

The search is literal. It compares character by character under simple case folding, so an occurrence
has as many characters as the searched text, but not always as many bytes.
-/

namespace LiveLog

/-! ## 1. Searching -/

namespace Search

/-- Whether the text starts with the searched characters, up to folding. -/
def startsHere : (query text : List Char) → Bool
  | [], _ => true
  | _ :: _, [] => false
  | q :: qs, c :: cs => Text.sameFold q c && startsHere qs cs

/-- Whether the searched characters occur in a text. -/
def occurs (query : List Char) : List Char → Bool
  | [] => query.isEmpty
  | c :: cs => startsHere query (c :: cs) || occurs query cs

/-- The number of bytes of some characters. -/
def bytes : List Char → Nat
  | [] => 0
  | c :: cs => c.utf8Size + bytes cs

/-- The occurrences from a place on, from left to right, as byte positions of start and end. The first
    `inside` characters belong to the occurrence found before. -/
def spansFrom (query : List Char) : (position inside : Nat) → List Char → List (Nat × Nat)
  | _, _, [] => []
  | position, inside + 1, c :: cs => spansFrom query (position + c.utf8Size) inside cs
  | position, 0, c :: cs =>
    if startsHere query (c :: cs) then
      (position, position + bytes ((c :: cs).take query.length)) ::
        spansFrom query (position + c.utf8Size) (query.length - 1) cs
    else spansFrom query (position + c.utf8Size) 0 cs

/-- **The leftmost occurrences that do not overlap.** Nothing is searched for by an empty query. -/
def spans (query text : String) : List (Nat × Nat) :=
  if query.isEmpty then [] else spansFrom query.toList 0 0 text.toList

end Search

/-! ## 2. Filters -/

/-- **What records are shown.** -/
structure Filter where
  search : String := ""
  level : Option String := none
  category : Option Category := none
deriving DecidableEq, Repr

namespace Filter

/-- Whether two texts differ at most in the case of ASCII letters. -/
def sameAscii (a b : String) : Bool := a.toList.map Char.toLower == b.toList.map Char.toLower

/-- **The level a filter keeps for a level as chosen.** Blanks around it do not count, an empty level
    and `all` choose every level, and the rest is kept in capitals. -/
def levelOf (level : String) : Option String :=
  let l := Text.trim level
  if l.isEmpty || sameAscii l "all" then none else some (Text.upper l)

/-- A filter on a searched text. -/
def ofSearch (search : String) : Filter := { search }

/-- The filter with another level. -/
def withLevel (f : Filter) (level : Option String) : Filter := { f with level := level.bind levelOf }

/-- The filter with another category. -/
def withCategory (f : Filter) (category : Option Category) : Filter := { f with category }

/-- The level criterion: the record's level as it stands, up to the case of ASCII letters. -/
def levelPasses (f : Filter) (r : Record) : Bool :=
  match f.level with
  | some l => sameAscii r.level l
  | none => true

/-- The category criterion. -/
def categoryPasses (f : Filter) (r : Record) : Bool :=
  match f.category with
  | some c => r.category == c
  | none => true

/-- The search criterion. -/
def searchPasses (f : Filter) (r : Record) : Bool :=
  f.search.isEmpty || Search.occurs f.search.toList r.message.toList

/-- **Whether a record passes**: it meets every criterion that is set. -/
def passes (f : Filter) (r : Record) : Bool :=
  f.levelPasses r && f.categoryPasses r && f.searchPasses r

/-- The occurrences of the searched text in a text. -/
def spans (f : Filter) (text : String) : List (Nat × Nat) := Search.spans f.search text

/-- Whether no criterion is set. -/
def isEmpty (f : Filter) : Bool := f.search.isEmpty && f.level.isNone && f.category.isNone

end Filter
end LiveLog
