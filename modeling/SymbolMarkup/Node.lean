import SymbolMarkup.Text.Lowercase

/-! The tree that the notation is written from. It belongs to no parser: a tree read from HTML and
one built by hand are the same thing. Tags keep the case they were given in, and attributes keep
their order, repeated names included. -/
namespace SymbolMarkup

structure Attribute where
  name : String
  value : String
  deriving DecidableEq, Repr

inductive Node where
  | element (tag : String) (attributes : List Attribute) (children : List Node)
  | text (content : String)
  | comment (content : String)
  | other (kind : String)
  deriving Repr, Inhabited

namespace Node

mutual

def decEq : (a b : Node) → Decidable (a = b)
  | .element t as cs, .element t' as' cs' =>
    if ht : t = t' then
      if ha : as = as' then
        match decEqList cs cs' with
        | isTrue hc => isTrue (by rw [ht, ha, hc])
        | isFalse hc => isFalse (by intro h; cases h; exact hc rfl)
      else isFalse (by intro h; cases h; exact ha rfl)
    else isFalse (by intro h; cases h; exact ht rfl)
  | .text s, .text s' =>
    if h : s = s' then isTrue (by rw [h]) else isFalse (by intro e; cases e; exact h rfl)
  | .comment s, .comment s' =>
    if h : s = s' then isTrue (by rw [h]) else isFalse (by intro e; cases e; exact h rfl)
  | .other s, .other s' =>
    if h : s = s' then isTrue (by rw [h]) else isFalse (by intro e; cases e; exact h rfl)
  | .element .., .text _ | .element .., .comment _ | .element .., .other _
  | .text _, .element .. | .text _, .comment _ | .text _, .other _
  | .comment _, .element .. | .comment _, .text _ | .comment _, .other _
  | .other _, .element .. | .other _, .text _ | .other _, .comment _ =>
    isFalse (by intro h; cases h)

def decEqList : (as bs : List Node) → Decidable (as = bs)
  | [], [] => isTrue rfl
  | a :: as, b :: bs =>
    match decEq a b, decEqList as bs with
    | isTrue h, isTrue hs => isTrue (by rw [h, hs])
    | isFalse h, _ => isFalse (by intro e; cases e; exact h rfl)
    | _, isFalse hs => isFalse (by intro e; cases e; exact hs rfl)
  | [], _ :: _ => isFalse (by intro h; cases h)
  | _ :: _, [] => isFalse (by intro h; cases h)

end

instance : DecidableEq Node := decEq

/-- Adds a last child. Only elements have children; any other node is left as it is. -/
def addChild (parent child : Node) : Node :=
  match parent with
  | .element tag attributes children => .element tag attributes (children ++ [child])
  | leaf => leaf

end Node

structure Element where
  tag : String
  attributes : List Attribute
  children : List Node

def Element.shownTag (e : Element) : String := Text.lowercase e.tag

def Node.toElement? : Node → Option Element
  | .element tag attributes children => some ⟨tag, attributes, children⟩
  | _ => none

end SymbolMarkup
