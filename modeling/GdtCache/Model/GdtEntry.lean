import GdtCache.Utils.Exception
import GdtCache.Utils.Time
import Mathlib.Data.Rat.Defs

/-!
# Gdt entries

`model::GdtEntry`, one row of the table `gdt_entries` as the cache keeps it.  Amounts of money are
exact here: the `double` columns are rationals, the `long long` ones integers.
-/

namespace GdtCache.Model

/-! ### The entry type -/

/-- `GdtEntry::GdtEntryType`.  The column is cast to the enumeration unchecked, so every other
`int` is a value of it, too. -/
inductive GdtEntryType
  | FORM
  | CVS
  | ELOPAGE
  | ELOPAGE_PUBLISHER
  | DIGISTORE
  | CVS2
  | GLOBAL_MODIFICATOR
  | CVS_STAFF_WAGE
  | STAFF_WAGE_GLOBAL_MODIFICATOR
  | MAX
  | unnamed (value : ℤ)
  deriving DecidableEq

namespace GdtEntryType

/-- `static_cast<int>(type)` -/
def toInt : GdtEntryType → ℤ
  | FORM => 1
  | CVS => 2
  | ELOPAGE => 3
  | ELOPAGE_PUBLISHER => 4
  | DIGISTORE => 5
  | CVS2 => 6
  | GLOBAL_MODIFICATOR => 7
  | CVS_STAFF_WAGE => 8
  | STAFF_WAGE_GLOBAL_MODIFICATOR => 9
  | MAX => 10
  | unnamed value => value

/-- `(GdtEntryType)value` -/
def ofInt : ℤ → GdtEntryType
  | 1 => FORM
  | 2 => CVS
  | 3 => ELOPAGE
  | 4 => ELOPAGE_PUBLISHER
  | 5 => DIGISTORE
  | 6 => CVS2
  | 7 => GLOBAL_MODIFICATOR
  | 8 => CVS_STAFF_WAGE
  | 9 => STAFF_WAGE_GLOBAL_MODIFICATOR
  | 10 => MAX
  | value => unnamed value

end GdtEntryType

/-! ### The entry -/

/-- `model::GdtEntry` -/
structure GdtEntry where
  mId : ℤ
  /-- Normal euro sum, in cents. -/
  mAmount : ℤ
  mDateString : String
  mDate : ℤ
  mEmail : String
  mComment : String
  mCouponCode : String
  mCustomerId : ℤ
  mGdtEntryType : GdtEntryType
  mFactor : ℚ
  mAmount2 : ℤ
  mFactor2 : ℚ
  /-- The resulting gdt. -/
  mGDT : ℚ
  deriving DecidableEq

namespace GdtEntry

/-- `getGdtEntryTypeString`, which throws on a value without a name. -/
def getGdtEntryTypeString : GdtEntryType → Except Exception String
  | .FORM => .ok "FORM"
  | .CVS => .ok "CVS"
  | .ELOPAGE => .ok "ELOPAGE"
  | .ELOPAGE_PUBLISHER => .ok "ELOPAGE_PUBLISHER"
  | .DIGISTORE => .ok "DIGISTORE"
  | .CVS2 => .ok "CVS2"
  | .GLOBAL_MODIFICATOR => .ok "GLOBAL_MODIFICATOR"
  | .CVS_STAFF_WAGE => .ok "STAFF_WAGES"
  | .STAFF_WAGE_GLOBAL_MODIFICATOR => .ok "STAFF_WAGES_GLOBAL_MODIFICATOR"
  | type => .error (.runtimeError
      ("unknown enum value for model::GdtEntryType: " ++ toString type.toInt))

/-- `getFullComment`: the comment with its source and project, as far as there are any. -/
def getFullComment (comment source project : String) : String :=
  let fullComment := comment
  let fullComment :=
    if source.isEmpty then fullComment
    else (if fullComment.isEmpty then fullComment else fullComment ++ " – ") ++ "Quelle: " ++ source
  if project.isEmpty then fullComment
  else (if fullComment.isEmpty then fullComment else fullComment ++ " – ") ++ "Projekt: " ++ project

/-- The constructor.  The date is printed in the server's time zone. -/
def new (timeZone : TimeZone) (id amount date : ℤ)
    (email comment source project coupon_code : String) (customer_id gdt_entry_type_id : ℤ)
    (factor : ℚ) (amount2 : ℤ) (factor2 gdt : ℚ) : GdtEntry where
  mId := id
  mAmount := amount
  mDateString := putTime (localtime timeZone date)
  mDate := date
  mEmail := email
  mComment := getFullComment comment source project
  mCouponCode := coupon_code
  mCustomerId := customer_id
  mGdtEntryType := .ofInt gdt_entry_type_id
  mFactor := factor
  mAmount2 := amount2
  mFactor2 := factor2
  mGDT := gdt / 100

def getId (e : GdtEntry) : ℤ := e.mId
def getAmountDecimal (e : GdtEntry) : ℚ := e.mAmount / 100
def getDateString (e : GdtEntry) : String := e.mDateString
def getDate (e : GdtEntry) : ℤ := e.mDate
def getEmail (e : GdtEntry) : String := e.mEmail
def getComment (e : GdtEntry) : String := e.mComment
def getCouponCode (e : GdtEntry) : String := e.mCouponCode
def getCustomerId (e : GdtEntry) : ℤ := e.mCustomerId
def getFactor (e : GdtEntry) : ℚ := e.mFactor
def getAmount2Decimal (e : GdtEntry) : ℚ := e.mAmount2 / 100
def getFactor2 (e : GdtEntry) : ℚ := e.mFactor2
def getGdt (e : GdtEntry) : ℚ := e.mGDT

/-- `getGdtEntryTypeId`: the staff wage is not known to the client and told as `CVS`. -/
def getGdtEntryTypeId (e : GdtEntry) : ℤ :=
  if e.mGdtEntryType = .CVS_STAFF_WAGE then 2 else e.mGdtEntryType.toInt

end GdtEntry

end GdtCache.Model
