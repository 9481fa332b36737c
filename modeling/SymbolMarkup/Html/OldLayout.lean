import SymbolMarkup.Html.Token.Declaration

/-! Which document type declarations ask for the layout rules of old pages. Under those rules a
table does not end the paragraph before it.
A public identifier tells whether its owner is registered, then names the owner, the document type
and its language. A double slash closes each part but the last. Owner and document type together
tell an old one; a few identifiers are known as a whole. Capitals do not matter. -/
namespace SymbolMarkup.Html

namespace Doctype

/-- Old document types by owner. A dash in front marks an owner that is not registered. -/
def oldTypes : List (String × List String) :=
  [("-//advasoft ltd//", ["dtd html 3.0 aswedit + extensions//"]),
    ("-//as//", ["dtd html 3.0 aswedit + extensions//"]),
    ("-//ietf//",
      ["dtd html//", "dtd html 2.0//", "dtd html 2.0 level 1//", "dtd html 2.0 level 2//",
        "dtd html 2.0 strict//", "dtd html 2.0 strict level 1//", "dtd html 2.0 strict level 2//",
        "dtd html 2.1e//", "dtd html 3//", "dtd html 3.0//", "dtd html 3.2//",
        "dtd html 3.2 final//", "dtd html level 0//", "dtd html level 1//", "dtd html level 2//",
        "dtd html level 3//", "dtd html strict//", "dtd html strict level 0//",
        "dtd html strict level 1//", "dtd html strict level 2//", "dtd html strict level 3//"]),
    ("-//metrius//", ["dtd metrius presentational//"]),
    ("-//microsoft//",
      ["dtd internet explorer 2.0 html//", "dtd internet explorer 2.0 html strict//",
        "dtd internet explorer 2.0 tables//", "dtd internet explorer 3.0 html//",
        "dtd internet explorer 3.0 html strict//", "dtd internet explorer 3.0 tables//"]),
    ("-//netscape comm. corp.//", ["dtd html//", "dtd strict html//"]),
    ("-//o'reilly and associates//",
      ["dtd html 2.0//", "dtd html extended 1.0//", "dtd html extended relaxed 1.0//"]),
    ("-//softquad//", ["dtd hotmetal pro 4.0::19971010::extensions to html 4.0//"]),
    ("-//softquad software//", ["dtd hotmetal pro 6.0::19990601::extensions to html 4.0//"]),
    ("-//spyglass//", ["dtd html 2.0 extended//"]),
    ("-//sq//", ["dtd html 2.0 hotmetal + extensions//"]),
    ("-//sun microsystems corp.//", ["dtd hotjava html//", "dtd hotjava strict html//"]),
    ("-//w3c//",
      ["dtd html 3 1995-03-24//", "dtd html 3.2//", "dtd html 3.2 draft//", "dtd html 3.2 final//",
        "dtd html 3.2s draft//", "dtd html 4.0 frameset//", "dtd html 4.0 transitional//",
        "dtd html experimental 19960712//", "dtd html experimental 970421//", "dtd w3 html//"]),
    ("-//w3o//", ["dtd w3 html 3.0//"]),
    ("-//webtechs//", ["dtd mozilla html//", "dtd mozilla html 2.0//"])]

/-- Document types that count as old only without a system identifier. -/
def datedTypes : List (String × List String) :=
  [("-//w3c//", ["dtd html 4.01 frameset//", "dtd html 4.01 transitional//"])]

def oldPublicIds : List String :=
  ["-//w3o//dtd w3 html strict 3.0//en//", "-/w3c/dtd html 4.0 transitional/en", "html"]

def oldSystemId : List String :=
  ["http:", "", "www.ibm.com", "data", "dtd", "v11", "ibmxhtml1-transitional.dtd"]

def lowered (id : String) : String := String.ofList (id.toList.map Text.asciiLower)

def behind? (front cs : List Char) : Option (List Char) :=
  if front.isPrefixOf cs then some (cs.drop front.length) else none

def belongsTo (types : List (String × List String)) (id : List Char) : Bool :=
  types.any fun (owner, descriptions) =>
    (behind? owner.toList id).any fun rest =>
      descriptions.any fun description => description.toList.isPrefixOf rest

def hasOldPublicId (d : Doctype) (id : String) : Bool :=
  oldPublicIds.contains id || belongsTo oldTypes id.toList ||
  (d.systemId.isNone && belongsTo datedTypes id.toList)

def asksOldLayout (d : Doctype) : Bool :=
  d.broken || d.name != some "html" ||
  (d.publicId.map lowered).any d.hasOldPublicId ||
  d.systemId.map lowered == some ("/".intercalate oldSystemId)

end Doctype

end SymbolMarkup.Html
