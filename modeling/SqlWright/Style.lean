/-! The spelling of a dialect: how identifiers are quoted and how a page is written. -/
namespace SqlWright

/-- Where the offset of a page stands. -/
inductive LimitForm where
  /-- `LIMIT offset, size` -/
  | offsetComma
  /-- `LIMIT size OFFSET offset` -/
  | offsetKeyword
  deriving DecidableEq

structure Style where
  quote : Char
  pageSize : UInt64
  limitForm : LimitForm
  deriving DecidableEq

namespace Style

/-- Backquotes, pages of a thousand rows, the offset before a comma. -/
def standard : Style := ⟨'\x60', 1000, .offsetComma⟩

/-- Double quotes and the offset after its keyword. -/
def postgres : Style := { standard with quote := '"', limitForm := .offsetKeyword }

end Style

/-- A token that already looks like an expression: it holds the quote character, a point,
a space or an opening parenthesis. -/
def isExpression (token : String) (quote : Char) : Bool :=
  token.toList.any fun c => c = quote || c = '.' || c = ' ' || c = '('

/-- Wrap a bare name in the quote character; an expression stays as it is. -/
def quoteIdentifier (token : String) (quote : Char) : String :=
  if isExpression token quote then token else quote.toString ++ token ++ quote.toString

def Style.quoted (style : Style) (token : String) : String := quoteIdentifier token style.quote

end SqlWright
