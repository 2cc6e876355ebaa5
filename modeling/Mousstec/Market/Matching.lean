import Mathlib.Data.List.Infix
import Mathlib.Data.List.Sort
import Mousstec.Library.Table

/-!
# Matching supply and demand

A seller's listing and a buyer's wanted request fit when make, model, years and
the part itself agree.  The rule is written twice: the buyer's side filters the
years in the database and compares the models in memory, the seller's side
leaves both to the database.  What Python and the database know about characters
is a parameter.
-/

namespace Mousstec.Market

open Library

/-- The character tables of the interpreter and of the database. -/
structure TextTables where
  lower : List Char → List Char
  upper : List Char → List Char
  isSpace : Char → Bool
  /-- `\w`. -/
  isWord : Char → Bool
  isDigit : Char → Bool
  /-- `UPPER` of the database. -/
  foldCase : List Char → List Char

def stopWords : List String :=
  ["قطعة", "قطعه", "قطع", "غيار", "جديد", "جديدة", "مستعمل", "مستعملة", "اصلي",
    "أصلي", "اصلية", "أصلية", "عربية", "عربيه", "سيارة", "سياره", "محتاج",
    "مطلوب", "كامل", "كاملة", "حالة", "ممتاز", "ممتازة", "نظيف", "نظيفة", "the",
    "and", "for", "new", "used", "original", "part", "parts", "car", "oem"]

namespace TextTables

variable (tables : TextTables)

/-- `str.strip`. -/
def strip (text : List Char) : List Char :=
  (((text.dropWhile tables.isSpace).reverse).dropWhile tables.isSpace).reverse

private def plainLetter : Char → Char
  | 'أ' => 'ا'
  | 'إ' => 'ا'
  | 'آ' => 'ا'
  | 'ة' => 'ه'
  | 'ى' => 'ي'
  | letter => letter

/-- `_normalize`. -/
def normalize (word : List Char) : List Char :=
  let plain := (tables.strip (tables.lower word)).map plainLetter
  if "ال".toList.isPrefixOf plain ∧ plain.length > 4 then plain.drop 2 else plain

/-- The characters of `_TOKEN_RE`. -/
def inToken (letter : Char) : Bool :=
  tables.isWord letter || ('\u0600' ≤ letter && letter ≤ '\u06FF')

def runsFrom (run : List Char) : List Char → List (List Char)
  | [] => if run = [] then [] else [run.reverse]
  | letter :: rest =>
      if tables.inToken letter then runsFrom (letter :: run) rest
      else if run = [] then runsFrom [] rest
      else run.reverse :: runsFrom [] rest

/-- `tokens`. -/
def tokens (text : String) : List (List Char) :=
  ((tables.runsFrom [] text.toList).map tables.normalize).filter fun word =>
    3 ≤ word.length ∧ String.ofList word ∉ stopWords ∧
      ¬ (word ≠ [] ∧ word.all tables.isDigit = true)

/-- `_oem`. -/
def oem (value : String) : List Char :=
  tables.upper (value.toList.filter fun letter =>
    !(tables.isSpace letter || letter = '-' || letter = '.'))

/-- `part_matches`. -/
def partMatches (nameA oemA nameB oemB : String) : Bool :=
  if tables.oem oemA ≠ [] ∧ tables.oem oemB ≠ [] then
    tables.oem oemA = tables.oem oemB
  else (tables.tokens nameA).any fun word => (tables.tokens nameB).contains word

end TextTables

inductive ListingStatus
  | draft
  | active
  | reserved
  | sold
  | removed
  deriving DecidableEq

inductive ModerationStatus
  | pendingApproval
  | approved
  | rejected
  | suspended
  deriving DecidableEq

structure PartListing where
  sellerCustomer : Option ℕ
  title : String
  carMake : ℕ
  carModel : String := ""
  carYearFrom : Option ℤ := none
  carYearTo : Option ℤ := none
  partNumber : String := ""
  priceEgp : ℤ
  status : ListingStatus := .draft
  moderationStatus : ModerationStatus := .pendingApproval
  isDeleted : Bool := false
  reservedFor : Option ℕ := none
  deriving DecidableEq

inductive WantedStatus
  | open
  | matched
  | fulfilled
  | cancelled
  | expired
  deriving DecidableEq

structure PartWantedRequest where
  buyerCustomer : Option ℕ
  carMake : ℕ
  carModel : String
  carYear : ℤ
  partName : String
  partNumberOem : String := ""
  status : WantedStatus := .open
  isDeleted : Bool := false
  createdAt : ℤ
  expiresAt : ℤ
  deriving DecidableEq

structure PartsMarket where
  listings : Table PartListing
  requests : Table PartWantedRequest

/-- A listing of `_public_listings`. -/
def PartListing.IsPublic (listing : PartListing) : Prop :=
  listing.status = .active ∧ listing.moderationStatus = .approved ∧
    listing.isDeleted = false ∧ listing.reservedFor = none

instance PartListing.decidableIsPublic (listing : PartListing) :
    Decidable listing.IsPublic :=
  inferInstanceAs (Decidable (_ ∧ _ ∧ _ ∧ _))

def PartWantedRequest.IsOpen (request : PartWantedRequest) (now : ℤ) : Prop :=
  request.isDeleted = false ∧ request.status = .open ∧ now < request.expiresAt

instance PartWantedRequest.decidableIsOpen (request : PartWantedRequest)
    (now : ℤ) : Decidable (request.IsOpen now) :=
  inferInstanceAs (Decidable (_ ∧ _ ∧ _))

def firstMatches {α : Type} (fits : α → Bool) (limit : ℕ) :
    List α → List α → List α
  | out, [] => out
  | out, row :: rows =>
      if fits row = true then
        if limit ≤ (out ++ [row]).length then out ++ [row]
        else firstMatches fits limit (out ++ [row]) rows
      else firstMatches fits limit out rows

section Queries

variable (tables : TextTables)

def samePart (listing : PartListing) (request : PartWantedRequest) : Bool :=
  tables.partMatches listing.title listing.partNumber request.partName
    request.partNumberOem

def candidateListings (market : PartsMarket) (request : PartWantedRequest) :
    List (ℕ × PartListing) :=
  market.listings.rows.filter fun row =>
    row.2.IsPublic ∧ row.2.carMake = request.carMake ∧
      (row.2.carYearFrom.all fun first => first ≤ request.carYear) = true ∧
      (row.2.carYearTo.all fun last => request.carYear ≤ last) = true ∧
      (request.buyerCustomer.all fun buyer =>
        row.2.sellerCustomer ≠ some buyer) = true

def modelsMeet (listing : PartListing) (request : PartWantedRequest) : Bool :=
  let model := tables.strip request.carModel.toList
  let listed := tables.lower (tables.strip listing.carModel.toList)
  !(model ≠ [] ∧ listed ≠ [] ∧ listed ≠ tables.lower model ∧
    ¬ tables.lower model <:+: listed ∧ ¬ listed <:+: tables.lower model)

def listingFits (request : PartWantedRequest) (row : ℕ × PartListing) : Bool :=
  modelsMeet tables row.2 request && samePart tables row.2 request

/-- `listings_matching_request`. -/
def listingsMatchingRequest (market : PartsMarket) (request : PartWantedRequest)
    (limit : ℕ) : List (ℕ × PartListing) :=
  firstMatches (listingFits tables request) limit []
    (((candidateListings market request).insertionSort fun first second =>
      first.2.priceEgp ≤ second.2.priceEgp).take 300)

/-- `_model_q`. -/
def modelQ (model : String) (request : PartWantedRequest) : Bool :=
  let stripped := tables.strip model.toList
  stripped = [] ∨ request.carModel = "" ∨
    tables.foldCase request.carModel.toList = tables.foldCase stripped ∨
    tables.foldCase stripped <:+: tables.foldCase request.carModel.toList

def boundHolds (bound : Option ℤ) (holds : ℤ → Bool) : Bool :=
  bound.all fun year => year = 0 || holds year

def candidateRequests (market : PartsMarket) (now : ℤ) (listing : PartListing) :
    List (ℕ × PartWantedRequest) :=
  market.requests.rows.filter fun row =>
    row.2.IsOpen now ∧ row.2.carMake = listing.carMake ∧
      modelQ tables listing.carModel row.2 = true ∧
      boundHolds listing.carYearFrom (fun first => first ≤ row.2.carYear) = true ∧
      boundHolds listing.carYearTo (fun last => row.2.carYear ≤ last) = true ∧
      (listing.sellerCustomer.all fun seller =>
        row.2.buyerCustomer ≠ some seller) = true

/-- `requests_matching_listing`. -/
def requestsMatchingListing (market : PartsMarket) (now : ℤ)
    (listing : PartListing) (limit : ℕ) : List (ℕ × PartWantedRequest) :=
  firstMatches (fun row => samePart tables listing row.2) limit []
    (((candidateRequests tables market now listing).insertionSort
      fun first second => second.2.createdAt ≤ first.2.createdAt).take 500)

end Queries

end Mousstec.Market
