import SymbolMarkup.Node

/-! What the markup of a document consists of: tags with their attributes, text, comments and
document type declarations. No tag repeats an attribute name, and names hold no capital ASCII
letters; both facts are part of the type. -/
namespace SymbolMarkup.Html

open Text (asciiLower)

def IsFolded (cs : List Char) : Prop := cs.map asciiLower = cs

theorem asciiLower_asciiLower (c : Char) : asciiLower (asciiLower c) = asciiLower c := by
  have small : ∀ k : Fin 26, asciiLower (Char.ofNat (k + 97)) = Char.ofNat (k + 97) := by decide
  by_cases h : 'A' ≤ c ∧ c ≤ 'Z'
  · have above : 65 ≤ c.toNat := by simpa [Char.le_def, UInt32.le_iff_toNat_le] using h.1
    have below : c.toNat ≤ 90 := by simpa [Char.le_def, UInt32.le_iff_toNat_le] using h.2
    have place := small ⟨c.toNat - 65, by omega⟩
    have shift : c.toNat - 65 + 97 = c.toNat + 32 := by omega
    have shown : asciiLower c = Char.ofNat (c.toNat + 32) := if_pos h
    rw [shown]
    simpa [shift] using place
  · have same : asciiLower c = c := if_neg h
    rw [same, same]

theorem isFolded_map (cs : List Char) : IsFolded (cs.map asciiLower) := by
  simp [IsFolded, asciiLower_asciiLower]

structure TagAttributes where
  entries : List Attribute
  distinct : (entries.map (·.name)).Nodup
  folded : ∀ a ∈ entries, IsFolded a.name.toList
  deriving DecidableEq

namespace TagAttributes

def empty : TagAttributes := ⟨[], by simp, by simp⟩

instance : Inhabited TagAttributes := ⟨empty⟩

def value? (l : TagAttributes) (name : String) : Option String :=
  (l.entries.find? (·.name == name)).map (·.value)

/-- Adds an attribute at the end, unless its name is there already. -/
def add (l : TagAttributes) (name : List Char) (value : String) : TagAttributes :=
  let folded := String.ofList (name.map asciiLower)
  if h : folded ∈ l.entries.map (·.name) then l
  else
    { entries := l.entries ++ [⟨folded, value⟩]
      distinct := by
        rw [List.map_append, List.nodup_append]
        refine ⟨l.distinct, by simp, ?_⟩
        intro a ha b hb
        simp only [List.map_cons, List.map_nil, List.mem_singleton] at hb
        rintro rfl
        exact h (hb ▸ ha)
      folded := by
        intro a ha
        rcases List.mem_append.mp ha with old | new
        · exact l.folded a old
        · rw [List.mem_singleton.mp new]
          simpa [folded] using isFolded_map name }

def merge (l other : TagAttributes) : TagAttributes :=
  other.entries.foldl (fun acc a => acc.add a.name.toList a.value) l

def sameEntries (l other : TagAttributes) : Bool :=
  l.entries.length == other.entries.length && l.entries.all (other.entries.contains ·)

end TagAttributes

structure Tag where
  name : String
  attributes : TagAttributes
  selfClosing : Bool
  deriving DecidableEq, Inhabited

structure Doctype where
  name : Option String
  publicId : Option String
  systemId : Option String
  broken : Bool
  deriving DecidableEq, Repr

inductive Token where
  | text (chars : List Char)
  /-- Malformed markup that is nothing by itself: an end tag without a name, or the missing
  semicolon of the reference that comes next. -/
  | flaw
  | null
  | startTag (tag : Tag)
  | endTag (name : String)
  | comment (content : String)
  | doctype (declaration : Doctype)
  | endOfInput
  deriving DecidableEq

end SymbolMarkup.Html
