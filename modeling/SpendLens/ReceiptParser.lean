/-
# The receipt parser

What the text of a receipt is read with: regular expressions for amounts, keywords and dates, and
the date formats of the standard library, which are regular expressions too.  All of them ignore
case, by the simple case mapping, so that a few letters outside ASCII pass for `s`, `k` and `i`.
-/
import SpendLens.ReceiptTasks
import SpendLens.GmailOAuth
import SpendLens.Lib.Regex

namespace SpendLens

namespace ReceiptParser

open Regex

/-! ## Character classes -/

/-- Does a character match a lower-case literal, ignoring case? -/
def sameLetter (literal c : Char) : Bool :=
  c.toLower = literal || (literal = 's' && c = 'ſ') || (literal = 'k' && c = 'K') ||
    (literal = 'i' && (c = 'İ' || c = 'ı'))

/-- `[a-z]`, ignoring case. -/
def isLatin (c : Char) : Bool :=
  ('a' ≤ c.toLower && c.toLower ≤ 'z') || c = 'ſ' || c = 'K' || c = 'İ' || c = 'ı'

/-- A text, ignoring case. -/
def literal (text : String) : Regex Char :=
  Regex.all (text.toList.map (fun c => .one (sameLetter c)))

/-- `\s` -/
def space : Regex Char := .one isSpace

/-- One of some characters. -/
def oneOf (cs : String) : Regex Char := .one (fun c => cs.toList.contains c)

variable (U : Unicode)

/-- `\d` -/
def digit : Regex Char := .one (fun c => (U.decimal c).isSome)

/-! ## The expressions -/

/-- The group of `_AMOUNT_RE`. -/
def amountDigits : Regex Char :=
  Regex.all [between (digit U) 1 3, star (Regex.all [literal ",", times (digit U) 3]), literal ".",
    times (digit U) 2]

/-- `_AMOUNT_RE` -/
def amountRe : Regex Char :=
  Regex.all [opt (Regex.any [oneOf "$£€", literal "usd", literal "gbp", literal "eur"]), star space,
    group 1 (amountDigits U), boundary]

/-- `_TOTAL_KEYWORDS` -/
def totalKeywords : List String :=
  ["grand total", "amount due", "total due", "balance due", "total"]

/-- The members of `_KEYWORD_RES`. -/
def keywordRe (keyword : String) : Regex Char := Regex.all [boundary, literal keyword, boundary]

/-- `_DATE_PATTERNS` have one group, between word boundaries. -/
def datePattern (r : Regex Char) : Regex Char := Regex.all [boundary, group 1 r, boundary]

def monthAbbreviations : List String :=
  ["jan", "feb", "mar", "apr", "may", "jun", "jul", "aug", "sep", "oct", "nov", "dec"]

/-- `_DATE_PATTERNS` -/
def datePatterns : List (Regex Char) :=
  [datePattern (Regex.all [times (digit U) 4, literal "-", times (digit U) 2, literal "-",
      times (digit U) 2]),
    datePattern (Regex.all [times (digit U) 2, literal "/", times (digit U) 2, literal "/",
      times (digit U) 4]),
    datePattern (Regex.all [times (digit U) 2, literal "-", times (digit U) 2, literal "-",
      times (digit U) 4]),
    datePattern (Regex.all [times (digit U) 2, literal ".", times (digit U) 2, literal ".",
      times (digit U) 4]),
    datePattern (Regex.all [Regex.any (monthAbbreviations.map literal), star (.one isLatin),
      opt (literal "."), plus space, between (digit U) 1 1, opt (literal ","), plus space,
      times (digit U) 4])]

/-! ## `strptime` -/

/-- What a date format is made of. -/
inductive Directive where
  | year
  | month
  | day
  | abbreviation
  | monthName
  | space
  | char (c : Char)

def monthNames : List String :=
  ["january", "february", "march", "april", "may", "june", "july", "august", "september",
    "october", "november", "december"]

/-- The order in which they are tried: the longest first. -/
def monthNamesByLength : List String :=
  ["september", "february", "november", "december", "january", "october", "august", "march",
    "april", "june", "july", "may"]

/-- The expression of a directive; its group has a number of its own. -/
def Directive.regex : Directive → Regex Char
  | year => group 1 (times (digit U) 4)
  | month => group 2 (Regex.any [seq (oneOf "1") (oneOf "012"), seq (oneOf "0") (oneOf "123456789"),
      oneOf "123456789"])
  | day => group 3 (Regex.any [seq (oneOf "3") (oneOf "01"), seq (oneOf "12") (digit U),
      seq (oneOf "0") (oneOf "123456789"), oneOf "123456789", seq (oneOf " ") (oneOf "123456789")])
  | abbreviation => group 4 (Regex.any (monthAbbreviations.map literal))
  | monthName => group 5 (Regex.any (monthNamesByLength.map literal))
  | space => plus ReceiptParser.space
  | char c => .one (sameLetter c)

/-- `_DATE_FORMATS` -/
def dateFormats : List (List Directive) :=
  [[.year, .char '-', .month, .char '-', .day],
    [.month, .char '/', .day, .char '/', .year],
    [.month, .char '-', .day, .char '-', .year],
    [.day, .char '.', .month, .char '.', .year],
    [.abbreviation, .space, .day, .char ',', .space, .year],
    [.abbreviation, .space, .day, .space, .year],
    [.monthName, .space, .day, .char ',', .space, .year],
    [.monthName, .space, .day, .space, .year]]

/-- The number of a month that is spelled out. -/
def monthNumber (names : List String) (name : List Char) : Option ℤ :=
  (names.findIdx? (fun n => n = U.lower (String.ofList name))).map (fun i => (i : ℤ) + 1)

/-- The month of a match. -/
def matchedMonth (d : Place Char) : Option ℤ :=
  match d.group? 4, d.group? 5 with
  | some name, _ => monthNumber U monthAbbreviations name
  | none, some name => monthNumber U monthNames name
  | none, none => (d.group? 2).bind (intBaseTen U)

/-- `strptime(text, format).date()`; `none` is its `ValueError`. -/
def strptime (format : List Directive) (text : List Char) : Option Date :=
  match matchAt U.isWord (Regex.all (format.map (Directive.regex U))) (Place.start text) with
  | none => none
  | some d =>
      -- unconverted data remains
      if d.rest ≠ [] then none
      else do
        let year ← (d.group? 1).bind (intBaseTen U)
        let month ← matchedMonth U d
        let day ← (d.group? 3).bind (intBaseTen U)
        Date.of? year.toNat month.toNat day.toNat

/-! ## The extractors -/

def merchantLineWindow : ℕ := 5

def merchantMinLen : ℕ := 2

/-- Neither an address nor a number: at most 40% of the characters are digits. -/
def isMerchant (line : List Char) : Bool :=
  merchantMinLen ≤ line.length && !line.head?.any U.isDigit &&
    5 * (line.countP U.isDigit) ≤ 2 * line.length

/-- `_extract_merchant` -/
def extractMerchant (lines : List (List Char)) : Option (List Char) :=
  (lines.take merchantLineWindow).find? (isMerchant U)

/-- `_AMOUNT_RE.findall` -/
def amounts (line : List Char) : List (List Char) :=
  (findAll U.isWord (amountRe U) line).map (fun m => (m.2.group? 1).getD [])

/-- `keyword_re.search(line)` -/
def hasKeyword (keyword : String) (line : List Char) : Bool :=
  (search U.isWord (keywordRe keyword) line).isSome

/-- `_to_decimal` -/
def toDecimal (amount : List Char) : Except PyExc Decimal :=
  match Decimal.parse? U (String.ofList (amount.filter (fun c => c ≠ ','))) with
  | some d => .ok d
  | none => .error .invalidOperation

/-- `max` of a list that may be empty; the first of equal values wins. -/
def largest : List Decimal → Option Decimal
  | [] => none
  | d :: ds => some (ds.foldl (fun best d => if d.le best then best else d) d)

/-- The right-most amount of the first line with a keyword and an amount. -/
def keywordAmount (lines : List (List Char)) (keyword : String) : Option (List Char) :=
  lines.findSome? (fun line => if hasKeyword U keyword line then (amounts U line).getLast? else none)

/-- `_extract_total` -/
def extractTotal (lines : List (List Char)) : Except PyExc (Option Decimal) :=
  match totalKeywords.findSome? (keywordAmount U lines) with
  | some amount => (toDecimal U amount).map some
  | none => ((lines.flatMap (amounts U)).mapM (toDecimal U)).map largest

/-- `_try_parse_date` -/
def tryParseDate (text : List Char) : Option Date :=
  dateFormats.findSome? (fun format => strptime U format text)

/-- `_extract_date` -/
def extractDate (text : List Char) : Option Date :=
  (datePatterns U).findSome? (fun pattern =>
    (search U.isWord pattern text).bind (fun m => (m.2.group? 1).bind (tryParseDate U)))

/-- The lines of a text, stripped, without blank ones. -/
def receiptLines (text : String) : List (List Char) :=
  ((splitlines text).filter (fun line => strip line ≠ "")).map (fun line => (strip line).toList)

/-- `parse_receipt_text` -/
def parseReceiptText (text : String) : Except PyExc ParsedReceipt :=
  (extractTotal U (receiptLines text)).map (fun total =>
    { merchant := (extractMerchant U (receiptLines text)).map String.ofList
      total := total
      transactionDate := extractDate U text.toList })

end ReceiptParser

end SpendLens
