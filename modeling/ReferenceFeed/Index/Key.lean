import ReferenceFeed.Keyed

namespace ReferenceFeed

/-- How records are indexed. A record without a key is left out. -/
structure IndexKey (ρ κ : Type) where
  name : String
  /-- Whether two records with one key are an error when the index is built. -/
  unique : Bool := false
  of : ρ → Option κ
  /-- How a key is written in a message. -/
  shown : κ → String

end ReferenceFeed
