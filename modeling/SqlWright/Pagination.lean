import SqlWright.Style
/-! The body of a LIMIT clause. A page is a window of rows; its offset is the page number
times the page size, held at the greatest 64-bit number where the product exceeds it. -/
namespace SqlWright

/-- What a caller asked for: nothing, a count, or text to be written as it is. -/
inductive Limit where
  | unset
  | count (n : UInt64)
  | raw (text : String)
  deriving DecidableEq

/-- A negative count asks for no rows. -/
def Limit.ofInt (n : Int) : Limit := .count (UInt64.ofNat n.toNat)

def Limit.ofOption : Option UInt64 → Limit
  | none => .unset
  | some n => .count n

/-- The product, or the greatest 64-bit number if the product exceeds it. -/
def saturatingMul (a b : UInt64) : UInt64 :=
  UInt64.ofNat (min (a.toNat * b.toNat) (UInt64.size - 1))

/-- What a LIMIT clause selects. -/
inductive Window where
  | raw (text : String)
  | first (size : UInt64)
  | page (size offset : UInt64)
  deriving DecidableEq

namespace Window

/-- Caller-written text wins over a page; a page without a count has the default size. An
empty text counts as no limit. -/
def select (limit : Limit) (page : Option UInt64) (pageSize : UInt64) : Option Window :=
  match limit, page with
  | .raw text, page =>
    if text = "" then page.map fun page => .page pageSize (saturatingMul page pageSize)
    else some (.raw text)
  | .count n, some page => some (.page n (saturatingMul n page))
  | .count n, none => some (.first n)
  | .unset, page => page.map fun page => .page pageSize (saturatingMul page pageSize)

def text (form : LimitForm) : Window → String
  | .raw text => text
  | .first size => toString size.toNat
  | .page size offset =>
    match form with
    | .offsetComma => toString offset.toNat ++ ", " ++ toString size.toNat
    | .offsetKeyword => toString size.toNat ++ " OFFSET " ++ toString offset.toNat

end Window

/-- The body of the LIMIT clause, if there is one. -/
def paginate (limit : Limit) (page : Option UInt64) (style : Style) : Option String :=
  (Window.select limit page style.pageSize).map (Window.text style.limitForm)

end SqlWright
