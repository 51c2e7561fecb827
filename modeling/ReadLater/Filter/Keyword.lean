import ReadLater.Text.LetterCase

/-! # Field keywords -/

namespace ReadLater

inductive Keyword
  | author
  | description
  | has
  | inPlace
  | includes
  | isProgress
  | label
  | language
  | mode
  | no
  | note
  | published
  | read
  | readPosition
  | recommendedBy
  | rss
  | saved
  | site
  | sort
  | subscription
  | title
  | itemType
  | updated
  | use
  | wordsCount
deriving DecidableEq, Repr

namespace Keyword

/-- The keyword in lower case. -/
def name : Keyword → String
  | .author => "author"
  | .description => "description"
  | .has => "has"
  | .inPlace => "in"
  | .includes => "includes"
  | .isProgress => "is"
  | .label => "label"
  | .language => "language"
  | .mode => "mode"
  | .no => "no"
  | .note => "note"
  | .published => "published"
  | .read => "read"
  | .readPosition => "readposition"
  | .recommendedBy => "recommendedby"
  | .rss => "rss"
  | .saved => "saved"
  | .site => "site"
  | .sort => "sort"
  | .subscription => "subscription"
  | .title => "title"
  | .itemType => "type"
  | .updated => "updated"
  | .use => "use"
  | .wordsCount => "wordscount"

/-- All keywords, ordered by name. -/
def all : List Keyword :=
  [.author, .description, .has, .inPlace, .includes, .isProgress, .label, .language, .mode, .no,
    .note, .published, .read, .readPosition, .recommendedBy, .rss, .saved, .site, .sort,
    .subscription, .title, .itemType, .updated, .use, .wordsCount]

/-- The keyword of a name in any letter case. -/
def ofName? (name : String) : Option Keyword :=
  all.find? fun k => k.name == Text.lower name

theorem ofName?_eq_some_iff {name : String} {k : Keyword} :
    ofName? name = some k ↔ Text.lower name = k.name := by
  constructor
  · intro h
    unfold ofName? at h
    have hname := List.find?_some h
    exact (beq_iff_eq.mp hname).symm
  · intro h
    rw [ofName?, h]
    cases k <;> rfl

end Keyword

end ReadLater
