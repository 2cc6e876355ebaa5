import Mousstec.Market.Matching

/-!
# Who is told about whom

With fewer candidates than the limits, each side finds exactly the rows that its
own test accepts.  The two tests differ in the models, where the seller's side
only looks for the listed model inside the wanted one, in models of blanks, in
bounds of the year zero and in the case of letters.
-/

namespace Mousstec.Market

open Library

theorem mem_firstMatches {α : Type} {fits : α → Bool} {limit : ℕ}
    (out rows : List α) (few : out.length + rows.countP fits ≤ limit) (row : α) :
    row ∈ firstMatches fits limit out rows ↔
      row ∈ out ∨ row ∈ rows ∧ fits row = true := by
  induction rows generalizing out with
  | nil => simp [firstMatches]
  | cons head rows induction =>
      rw [firstMatches]
      by_cases fit : fits head = true
      · rw [List.countP_cons_of_pos fit] at few
        have length : (out ++ [head]).length = out.length + 1 := by simp
        rw [if_pos fit, length]
        by_cases full : limit ≤ out.length + 1
        · -- The limit is met by the last row that fits.
          have none_left : rows.countP fits = 0 := by omega
          rw [List.countP_eq_zero] at none_left
          rw [if_pos full, List.mem_append, List.mem_singleton, List.mem_cons]
          constructor
          · rintro (old | rfl)
            · exact .inl old
            · exact .inr ⟨.inl rfl, fit⟩
          · rintro (old | ⟨rfl | later, fits_row⟩)
            · exact .inl old
            · exact .inr rfl
            · exact absurd fits_row (none_left row later)
        · rw [if_neg full, induction (out ++ [head]) (by omega), List.mem_append,
            List.mem_singleton, List.mem_cons, or_assoc]
          apply or_congr_right
          constructor
          · rintro (rfl | ⟨later, fits_row⟩)
            · exact ⟨.inl rfl, fit⟩
            · exact ⟨.inr later, fits_row⟩
          · rintro ⟨rfl | later, fits_row⟩
            · exact .inl rfl
            · exact .inr ⟨later, fits_row⟩
      · rw [List.countP_cons_of_neg fit] at few
        rw [if_neg fit, induction out few, List.mem_cons]
        apply or_congr_right
        constructor
        · rintro ⟨later, fits_row⟩
          exact ⟨.inr later, fits_row⟩
        · rintro ⟨rfl | later, fits_row⟩
          · exact absurd fits_row fit
          · exact ⟨later, fits_row⟩

theorem mem_query {α : Type} {fits : α → Bool} {limit most : ℕ}
    {before : α → α → Prop} [DecidableRel before] {rows : List α}
    (short : rows.length ≤ most) (few : rows.countP fits ≤ limit) (row : α) :
    row ∈ firstMatches fits limit []
        ((rows.insertionSort before).take most) ↔
      row ∈ rows ∧ fits row = true := by
  have sorted := List.perm_insertionSort before rows
  have whole : (rows.insertionSort before).take most =
      rows.insertionSort before := by
    rw [List.take_of_length_le]
    rw [sorted.length_eq]
    exact short
  rw [whole, mem_firstMatches]
  · rw [sorted.mem_iff]
    simp
  · rw [sorted.countP_eq, List.length_nil, zero_add]
    exact few

variable {tables : TextTables} {market : PartsMarket} {now : ℤ}
variable {listing : PartListing} {request : PartWantedRequest}

/-- The year of the request is inside the bounds as they stand. -/
def WithinYears (listing : PartListing) (request : PartWantedRequest) : Prop :=
  (∀ first, listing.carYearFrom = some first → first ≤ request.carYear) ∧
    ∀ last, listing.carYearTo = some last → request.carYear ≤ last

def WithinNonzeroYears (listing : PartListing) (request : PartWantedRequest) :
    Prop :=
  (∀ first, listing.carYearFrom = some first →
      first = 0 ∨ first ≤ request.carYear) ∧
    ∀ last, listing.carYearTo = some last → last = 0 ∨ request.carYear ≤ last

theorem mem_candidateListings {listingPk : ℕ}
    (stored : market.listings.get? listingPk = some listing)
    (shown : listing.IsPublic)
    (apart : ∀ customer, listing.sellerCustomer = some customer →
      request.buyerCustomer ≠ some customer) :
    (listingPk, listing) ∈ candidateListings market request ↔
      listing.carMake = request.carMake ∧ WithinYears listing request := by
  have own : ∀ buyer, request.buyerCustomer = some buyer →
      listing.sellerCustomer ≠ some buyer :=
    fun buyer wanted same => apart buyer same wanted
  simp only [candidateListings, List.mem_filter, Table.get?_eq_some.mp stored,
    true_and, decide_eq_true_eq, shown, Option.all_eq_true, WithinYears]
  constructor
  · rintro ⟨make, first, last, -⟩
    exact ⟨make, first, last⟩
  · rintro ⟨make, first, last⟩
    exact ⟨make, first, last, own⟩

theorem mem_candidateRequests {requestPk : ℕ}
    (stored : market.requests.get? requestPk = some request)
    (waits : request.IsOpen now)
    (apart : ∀ customer, listing.sellerCustomer = some customer →
      request.buyerCustomer ≠ some customer) :
    (requestPk, request) ∈ candidateRequests tables market now listing ↔
      request.carMake = listing.carMake ∧
        modelQ tables listing.carModel request = true ∧
        WithinNonzeroYears listing request := by
  simp only [candidateRequests, List.mem_filter, Table.get?_eq_some.mp stored,
    true_and, decide_eq_true_eq, waits, boundHolds, Option.all_eq_true,
    Bool.or_eq_true, WithinNonzeroYears]
  constructor
  · rintro ⟨make, model, first, last, -⟩
    exact ⟨make, model, first, last⟩
  · rintro ⟨make, model, first, last⟩
    exact ⟨make, model, first, last, apart⟩

/-- The names of the models in lower case, one inside the other. -/
def NamesOverlap (tables : TextTables) (listing : PartListing)
    (request : PartWantedRequest) : Prop :=
  tables.lower (tables.strip request.carModel.toList) <:+:
      tables.lower (tables.strip listing.carModel.toList) ∨
    tables.lower (tables.strip listing.carModel.toList) <:+:
      tables.lower (tables.strip request.carModel.toList)

/-- The database finds the listed model in the wanted one. -/
def NameFound (tables : TextTables) (listing : PartListing)
    (request : PartWantedRequest) : Prop :=
  tables.foldCase (tables.strip listing.carModel.toList) <:+:
    tables.foldCase request.carModel.toList

theorem modelsMeet_iff : modelsMeet tables listing request = true ↔
    tables.strip request.carModel.toList = [] ∨
      tables.lower (tables.strip listing.carModel.toList) = [] ∨
      NamesOverlap tables listing request := by
  simp only [modelsMeet, NamesOverlap, Bool.not_eq_true', decide_eq_false_iff_not]
  constructor
  · intro meets
    by_contra apart
    push Not at apart
    refine meets ⟨apart.1, apart.2.1, ?_, apart.2.2.1, apart.2.2.2⟩
    intro same
    apply apart.2.2.1
    rw [same]
  · rintro (blank | blank | inside | inside) ⟨some, listed, -, first, second⟩
    · exact some blank
    · exact listed blank
    · exact first inside
    · exact second inside

theorem modelQ_iff : modelQ tables listing.carModel request = true ↔
    tables.strip listing.carModel.toList = [] ∨ request.carModel = "" ∨
      NameFound tables listing request := by
  simp only [modelQ, NameFound, decide_eq_true_eq]
  constructor
  · rintro (blank | empty | same | found)
    · exact .inl blank
    · exact .inr (.inl empty)
    · refine .inr (.inr ?_)
      rw [same]
    · exact .inr (.inr found)
  · rintro (blank | empty | found)
    · exact .inl blank
    · exact .inr (.inl empty)
    · exact .inr (.inr (.inr found))

/-- The models meet in memory, and the database does not find the listed one in
the wanted one. -/
structure BuyerOnly (tables : TextTables) (listing : PartListing)
    (request : PartWantedRequest) : Prop where
  years : WithinYears listing request
  meets : tables.strip request.carModel.toList = [] ∨
    tables.lower (tables.strip listing.carModel.toList) = [] ∨
    NamesOverlap tables listing request
  listed : tables.strip listing.carModel.toList ≠ []
  wanted : request.carModel ≠ ""
  missed : ¬ NameFound tables listing request

/-- The database finds the models, and the year is outside a bound of zero or the
models do not meet in lower case. -/
structure SellerOnly (tables : TextTables) (listing : PartListing)
    (request : PartWantedRequest) : Prop where
  years : WithinNonzeroYears listing request
  found : tables.strip listing.carModel.toList = [] ∨ request.carModel = "" ∨
    NameFound tables listing request
  missed : listing.carYearFrom = some 0 ∧ request.carYear < 0 ∨
    listing.carYearTo = some 0 ∧ 0 < request.carYear ∨
    tables.strip request.carModel.toList ≠ [] ∧
      tables.lower (tables.strip listing.carModel.toList) ≠ [] ∧
      ¬ NamesOverlap tables listing request

theorem WithinYears.nonzero (within : WithinYears listing request) :
    WithinNonzeroYears listing request :=
  ⟨fun first bound => .inr (within.1 first bound),
    fun last bound => .inr (within.2 last bound)⟩

theorem withinYears_or_zero (within : WithinNonzeroYears listing request) :
    WithinYears listing request ∨
      listing.carYearFrom = some 0 ∧ request.carYear < 0 ∨
      listing.carYearTo = some 0 ∧ 0 < request.carYear := by
  by_cases low : listing.carYearFrom = some 0 ∧ request.carYear < 0
  · exact .inr (.inl low)
  · by_cases high : listing.carYearTo = some 0 ∧ 0 < request.carYear
    · exact .inr (.inr high)
    · refine .inl ⟨?_, ?_⟩
      · intro first bound
        rcases within.1 first bound with rfl | inside
        · exact not_lt.mp fun less => low ⟨bound, less⟩
        · exact inside
      · intro last bound
        rcases within.2 last bound with rfl | inside
        · exact not_lt.mp fun less => high ⟨bound, less⟩
        · exact inside

private theorem not_within_of_zero
    (zero : listing.carYearFrom = some 0 ∧ request.carYear < 0 ∨
      listing.carYearTo = some 0 ∧ 0 < request.carYear) :
    ¬ WithinYears listing request := by
  rintro ⟨first, last⟩
  rcases zero with ⟨bound, less⟩ | ⟨bound, more⟩
  · exact absurd (first 0 bound) (not_le.mpr less)
  · exact absurd (last 0 bound) (not_le.mpr more)

theorem tests_agree_iff :
    (WithinYears listing request ∧ modelsMeet tables listing request = true ↔
      WithinNonzeroYears listing request ∧
        modelQ tables listing.carModel request = true) ↔
      ¬ BuyerOnly tables listing request ∧ ¬ SellerOnly tables listing request := by
  rw [modelsMeet_iff, modelQ_iff]
  constructor
  · intro agree
    constructor
    · intro only
      obtain ⟨-, blank | empty | found⟩ := agree.mp ⟨only.years, only.meets⟩
      · exact only.listed blank
      · exact only.wanted empty
      · exact only.missed found
    · intro only
      obtain ⟨within, meets⟩ := agree.mpr ⟨only.years, only.found⟩
      rcases only.missed with zero | zero | ⟨some, listed, apart⟩
      · exact not_within_of_zero (.inl zero) within
      · exact not_within_of_zero (.inr zero) within
      · rcases meets with blank | blank | overlap
        · exact some blank
        · exact listed blank
        · exact apart overlap
  · rintro ⟨buyer, seller⟩
    constructor
    · rintro ⟨within, meets⟩
      refine ⟨within.nonzero, ?_⟩
      by_contra missed
      push Not at missed
      exact buyer ⟨within, meets, missed.1, missed.2.1, missed.2.2⟩
    · rintro ⟨within, found⟩
      constructor
      · rcases withinYears_or_zero within with inside | zero | zero
        · exact inside
        · exact absurd ⟨within, found, .inl zero⟩ seller
        · exact absurd ⟨within, found, .inr (.inl zero)⟩ seller
      · by_contra missed
        push Not at missed
        exact seller ⟨within, found, .inr (.inr missed)⟩

/-- Either side finds the pair exactly when the other one does, unless make and
part agree and only one of the tests for years and models is met. -/
theorem matching_symmetric_iff {listingPk requestPk listingLimit
    requestLimit : ℕ}
    (stored : market.listings.get? listingPk = some listing)
    (wanted : market.requests.get? requestPk = some request)
    (shown : listing.IsPublic) (waits : request.IsOpen now)
    (apart : ∀ customer, listing.sellerCustomer = some customer →
      request.buyerCustomer ≠ some customer)
    (shortListings : (candidateListings market request).length ≤ 300)
    (fewListings : (candidateListings market request).countP
      (listingFits tables request) ≤ listingLimit)
    (shortRequests :
      (candidateRequests tables market now listing).length ≤ 500)
    (fewRequests : (candidateRequests tables market now listing).countP
      (fun row => samePart tables listing row.2) ≤ requestLimit) :
    ((listingPk, listing) ∈
        listingsMatchingRequest tables market request listingLimit ↔
      (requestPk, request) ∈
        requestsMatchingListing tables market now listing requestLimit) ↔
      (listing.carMake = request.carMake →
        samePart tables listing request = true →
        ¬ BuyerOnly tables listing request ∧
          ¬ SellerOnly tables listing request) := by
  rw [listingsMatchingRequest, mem_query shortListings fewListings,
    requestsMatchingListing, mem_query shortRequests fewRequests,
    mem_candidateListings stored shown apart,
    mem_candidateRequests wanted waits apart, listingFits, Bool.and_eq_true,
    ← tests_agree_iff, eq_comm (a := request.carMake)]
  constructor
  · intro agree make part
    constructor
    · rintro ⟨within, meets⟩
      obtain ⟨⟨-, found, years⟩, -⟩ := agree.mp ⟨⟨make, within⟩, meets, part⟩
      exact ⟨years, found⟩
    · rintro ⟨years, found⟩
      obtain ⟨⟨-, within⟩, meets, -⟩ := agree.mpr ⟨⟨make, found, years⟩, part⟩
      exact ⟨within, meets⟩
  · intro agree
    constructor
    · rintro ⟨⟨make, within⟩, meets, part⟩
      obtain ⟨years, found⟩ := (agree make part).mp ⟨within, meets⟩
      exact ⟨⟨make, found, years⟩, part⟩
    · rintro ⟨⟨make, found, years⟩, part⟩
      obtain ⟨within, meets⟩ := (agree make part).mpr ⟨years, found⟩
      exact ⟨⟨make, within⟩, meets, part⟩

def asciiTables : TextTables where
  lower := List.map Char.toLower
  upper := List.map Char.toUpper
  isSpace := Char.isWhitespace
  isWord letter := letter.isAlphanum || letter = '_'
  isDigit := Char.isDigit
  foldCase := List.map Char.toUpper

def headlight (seller : ℕ) (model : String) : PartListing where
  sellerCustomer := some seller
  title := "Headlight left"
  carMake := 0
  carModel := model
  carYearFrom := some 2014
  priceEgp := 250000
  status := .active
  moderationStatus := .approved

def wantedHeadlight : PartWantedRequest where
  buyerCustomer := some 7
  carMake := 0
  carModel := "X5"
  carYear := 2016
  partName := "headlight"
  createdAt := 10
  expiresAt := 20

def headlightMarket : PartsMarket where
  listings := (Table.empty.insert (headlight 1 "x5")).insert
    (headlight 2 "X5 M")
  requests := Table.empty.insert wantedHeadlight

theorem matching_symmetric_headlight :
    (0, headlight 1 "x5") ∈
        listingsMatchingRequest asciiTables headlightMarket wantedHeadlight 5 ↔
      (0, wantedHeadlight) ∈ requestsMatchingListing asciiTables headlightMarket
        12 (headlight 1 "x5") 30 := by
  refine (matching_symmetric_iff (by decide +kernel) (by decide +kernel)
    (by decide +kernel) (by decide +kernel) ?_ (by decide +kernel)
    (by decide +kernel) (by decide +kernel) (by decide +kernel)).mpr ?_
  · intro customer sold bought
    obtain rfl := Option.some.inj sold
    cases bought
  · intro _ _
    refine ⟨fun only => only.missed ?_, fun only => ?_⟩
    · rw [NameFound]
      decide +kernel
    · rcases only.missed with ⟨zero, -⟩ | ⟨zero, -⟩ | ⟨-, -, apart⟩
      · cases zero
      · cases zero
      · apply apart
        rw [NamesOverlap]
        decide +kernel

/-- The buyer of an X5 is shown the listing of an X5 M, whose seller is not told
about the request. -/
theorem matching_one_sided :
    ¬ ∀ (tables : TextTables) (market : PartsMarket) (now : ℤ)
      (listing : PartListing) (request : PartWantedRequest)
      (listingPk requestPk : ℕ),
      market.listings.get? listingPk = some listing →
      market.requests.get? requestPk = some request →
      listing.IsPublic → request.IsOpen now →
      (∀ customer, listing.sellerCustomer = some customer →
        request.buyerCustomer ≠ some customer) →
      market.listings.rows.length < 5 → market.requests.rows.length < 30 →
      ((listingPk, listing) ∈ listingsMatchingRequest tables market request 5 ↔
        (requestPk, request) ∈
          requestsMatchingListing tables market now listing 30) := by
  intro symmetric
  have told := (symmetric asciiTables headlightMarket 12 (headlight 2 "X5 M")
    wantedHeadlight 1 0 (by decide +kernel) (by decide +kernel)
    (by decide +kernel) (by decide +kernel) (by
      intro customer sold bought
      obtain rfl := Option.some.inj sold
      cases bought) (by decide +kernel) (by decide +kernel)).mp
        (by decide +kernel)
  revert told
  decide +kernel

end Mousstec.Market
