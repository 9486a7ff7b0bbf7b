/-
# Picking a category for a merchant

The priority chain of `categoriseMerchant`: the user's own correction, the static
rule map, the language model, and `other` as the floor.  The rule map is data; the
model is a foreign call that may fail in its documented way.
-/
import SpendLens.Statement
import Mathlib.Data.List.Infix

namespace SpendLens

open ExpenseCategory

/-! ## The rule map -/

/-- `sub in s`. -/
def contains (sub s : String) : Bool := decide (sub.toList <:+: s.toList)

/-- Lower-case substrings and their categories; the first hit wins. -/
def rules : List (String × ExpenseCategory) :=
  [("uber eats", foodDining), ("ubereats", foodDining), ("doordash", foodDining),
    ("grubhub", foodDining), ("postmates", foodDining), ("starbucks", foodDining),
    ("blue bottle", foodDining), ("philz", foodDining), ("peet's", foodDining),
    ("peets coffee", foodDining), ("dunkin", foodDining), ("chipotle", foodDining),
    ("mcdonald", foodDining), ("subway", foodDining), ("panera", foodDining),
    ("sweetgreen", foodDining), ("chick-fil-a", foodDining), ("taco bell", foodDining),
    ("whole foods", groceries), ("trader joe", groceries), ("safeway", groceries),
    ("kroger", groceries), ("aldi", groceries), ("publix", groceries),
    ("instacart", groceries), ("costco", groceries),
    ("uber", transportation), ("lyft", transportation), ("shell", transportation),
    ("chevron", transportation), ("exxon", transportation), ("bart", transportation),
    ("muni", transportation), ("caltrain", transportation), ("amtrak", transportation),
    ("netflix", entertainment), ("spotify", entertainment), ("hulu", entertainment),
    ("disney+", entertainment), ("amc theatres", entertainment),
    ("ticketmaster", entertainment), ("stubhub", entertainment),
    ("amazon", shopping), ("target", shopping), ("walmart", shopping), ("nike", shopping),
    ("apple store", shopping), ("best buy", shopping),
    ("comcast", utilities), ("xfinity", utilities), ("pg&e", utilities), ("at&t", utilities),
    ("verizon", utilities), ("t-mobile", utilities),
    ("airbnb", travel), ("united airlines", travel), ("delta air", travel),
    ("southwest", travel), ("marriott", travel), ("hilton", travel), ("hyatt", travel),
    ("cvs", healthcare), ("walgreens", healthcare), ("kaiser", healthcare)]

/-- The category of a merchant in the rule map. -/
def lookupRule (U : Unicode) (merchant : String) : Option ExpenseCategory :=
  (rules.find? (fun r => contains r.1 (U.lower merchant))).map Prod.snd

/-! ## The language model -/

/-- The prompt that names every legal answer. -/
def systemPrompt : String :=
  "You are a strict expense classifier.\nGiven a merchant name, reply with EXACTLY ONE of: " ++
    ", ".intercalate (values.map Prod.snd) ++
    "\nReply with only the category value (lowercase, snake_case), " ++
    "nothing else. If you genuinely cannot tell, reply: other"

/-- Ask the configured model to classify a merchant; `none` is no opinion. -/
def categoriseWithLlm (env : Env) (merchant model : String) : Service (Option ExpenseCategory) :=
  match env.settings.openaiApiKey with
  | none => .ret none
  | some key =>
      if key.isEmpty then .ret none
      else
        .call (.ext (.chatCompletion model systemPrompt [merchant])) (fun r =>
          match r with
          | .ok content => .ret (of? (env.unicode.lower (strip (content.getD ""))))
          | .error .openAIError => .ret none
          | .error e => .raise e)

/-! ## The chain -/

/-- The form under which corrections are stored and looked up. -/
def normaliseMerchant (U : Unicode) (merchant : String) : String := U.lower (strip merchant)

/-- The correction of a user for a normalised merchant. -/
def isCorrection (userId : UUID) (normalised : String) (c : CategoryCorrection) : Bool :=
  c.userId = userId && c.merchantName = normalised

/-- What the chain says about a merchant nobody has corrected. -/
def categoriseByRule (env : Env) (merchant normalised : String) : Service ExpenseCategory :=
  match lookupRule env.unicode normalised with
  | some category => .ret category
  | none =>
      if env.settings.openaiApiKey.any (fun key => !key.isEmpty) then do
        let llm ← categoriseWithLlm env merchant env.settings.openaiModelCategorise
        return llm.getD other
      else .ret other

/-- The best-guess category for a receipt's merchant. -/
def categoriseMerchant (env : Env) (userId : UUID) (merchant : Option String) :
    Service ExpenseCategory :=
  match merchant with
  | none => .ret other
  | some merchant =>
      if merchant.isEmpty then .ret other
      else do
        let normalised := normaliseMerchant env.unicode merchant
        let rows ← sql (.selectCorrections [.text normalised] (isCorrection userId normalised))
        match ← scalarOneOrNone rows with
        | some correction => return correction.category
        | none => categoriseByRule env merchant normalised

end SpendLens
