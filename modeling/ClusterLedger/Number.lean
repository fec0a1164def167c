import ClusterLedger.Number.Shortest

namespace ClusterLedger

inductive Number where
  | whole (value : Int)
  | real (value : Binary64)
  deriving DecidableEq, Repr

namespace Number

def isZero : Number → Bool
  | whole n => n = 0
  | real x => x.isZero

def same : Number → Number → Bool
  | whole m, whole n => m = n
  | real x, real y => x.same y
  | whole n, real x => x.toInt? = some n
  | real x, whole n => x.toInt? = some n

def text : Number → String
  | whole n => toString n
  | real x => x.text

end Number
end ClusterLedger
