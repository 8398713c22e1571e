import RecordQuery.DataType.Basic

/-!
# Text of durations

A duration is written by its days, hours, minutes and seconds, of which those
that are zero are left out.  Seconds carry the decimals that the unit needs.
-/

namespace RecordQuery
namespace Duration

open Number

structure Parts where
  days : Nat
  hours : Nat
  minutes : Nat
  seconds : Nat
  /-- What is left of a second, in the unit. -/
  rest : Nat
  deriving DecidableEq

def parts (unit : TimeUnit) (size : Nat) : Parts :=
  let whole := size / unit.perSecond
  ⟨whole / 86400, whole % 86400 / 3600, whole % 3600 / 60, whole % 60, size % unit.perSecond⟩

def trimZeros (ds : List Char) : List Char :=
  (ds.reverse.dropWhile fun c => c == '0').reverse

def partText (n : Nat) (letter : Char) : List (List Char) :=
  if n == 0 then [] else [digits n ++ [letter]]

def secondsText (unit : TimeUnit) (seconds rest : Nat) : List (List Char) :=
  if rest == 0 then
    partText seconds 's'
  else
    [digits seconds ++ '.' :: trimZeros (paddedDigits unit.places rest) ++ ['s']]

def partTexts (unit : TimeUnit) (p : Parts) : List (List Char) :=
  partText p.days 'd' ++ partText p.hours 'h' ++ partText p.minutes 'm' ++
    secondsText unit p.seconds p.rest

def text (unit : TimeUnit) (n : Int64) : String :=
  if n == 0 then
    "0" ++ unit.suffix
  else
    let sign := if n < 0 then "-" else ""
    sign ++ String.ofList (Text.joinWords (partTexts unit (parts unit n.toInt.natAbs)))

end Duration
end RecordQuery
