import UptimeChecker.Types.CheckConfig

/-!
# The identity of a check

A check at a tick has a trace id that is a hash of what it is a check of, so that two processings of
one check can be recognised.
-/

namespace UptimeChecker

/-- The last `k` hexadecimal digits of a number. -/
def hexDigits (k n : Nat) : List Char :=
  (List.range k).map fun i => Nat.digitChar (n / 16 ^ (k - 1 - i) % 16)

/-- `Display` of a UUID: its hyphenated form. -/
def Uuid.display (u : Uuid) : String :=
  let digits := hexDigits 32 u.toNat
  String.ofList (digits.take 8 ++ '-' :: (digits.drop 8).take 4 ++ '-' :: (digits.drop 12).take 4 ++
    '-' :: (digits.drop 16).take 4 ++ '-' :: digits.drop 20)

/-- The namespace of the ids of results. -/
def checkerResultNamespace : Uuid := .fromU128 0x67f0b2d5e4764f009b999e6b95c3b7e3

/-- The trace id of a check at a tick. `displayDateTime` is `Display` of `DateTime<Utc>`. -/
def makeTraceId (newV5 : NewV5) (displayDateTime : DateTime → String) (config : CheckConfig)
    (tick : Tick) (retryNum : UInt16) : Uuid :=
  let uniqueKey := config.subscriptionId.display ++ "-" ++ displayDateTime tick.time ++ "-" ++
    retryNum.toNat.repr
  newV5 checkerResultNamespace uniqueKey.toUTF8.data.toList

end UptimeChecker
