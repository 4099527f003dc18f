import TrustedAppId.Timestamp
/-! Points in time as text in the notation of RFC 3339, in UTC. A fraction is written with three,
six or nine digits, as few as hold it, and is left out when it is zero. Years of other than four
digits carry a sign. -/
namespace TrustedAppId.Timestamp

def yearChars (year : Int) : List Char :=
  if 0 ≤ year ∧ year ≤ 9999 then Decimal.fixed 4 year.toNat
  else
    let sign := if year < 0 then '-' else '+'
    let size := year.natAbs
    sign :: (if size < 1000 then Decimal.fixed 4 size else Decimal.minimal size)

def fractionChars (nanosecond : Nat) : List Char :=
  if nanosecond = 0 then []
  else if nanosecond % 1000000 = 0 then '.' :: Decimal.fixed 3 (nanosecond / 1000000)
  else if nanosecond % 1000 = 0 then '.' :: Decimal.fixed 6 (nanosecond / 1000)
  else '.' :: Decimal.fixed 9 nanosecond

def dateChars (d : Date) : List Char :=
  yearChars d.year ++ '-' :: Decimal.fixed 2 d.month ++ '-' :: Decimal.fixed 2 d.day

/-- Hours, minutes and seconds with `mark` between them. -/
def timeChars (mark : Char) (t : TimeOfDay) : List Char :=
  Decimal.fixed 2 t.hour ++ mark :: Decimal.fixed 2 t.minute ++ mark :: Decimal.fixed 2 t.second

def chars (t : Timestamp) : List Char :=
  dateChars t.date ++ 'T' :: timeChars ':' t.time ++ fractionChars t.time.nanosecond ++ ['Z']

def text (t : Timestamp) : String := String.ofList t.chars

/-- Date and time to the second, in a form that a file name may hold. -/
def label (t : Timestamp) : String :=
  String.ofList (dateChars t.date ++ 'T' :: timeChars '-' t.time)

/-- Date and time with six digits of the second's fraction, whatever it is. -/
def logText (t : Timestamp) : String :=
  String.ofList (dateChars t.date ++ 'T' :: timeChars ':' t.time ++
    '.' :: Decimal.fixed 6 (t.time.nanosecond / 1000) ++ ['Z'])

end TrustedAppId.Timestamp
