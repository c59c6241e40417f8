import Mathlib.Algebra.GroupWithZero.Nat
import Mathlib.Data.List.Basic

/-!
# The rules of the packet filter: `iptables_def.h`, and what libiptc hands out

A table is a list of chains and a chain a list of rules, each of which is an entry of
the kernel's with its matches and its target. What the kernel sees to is in the types: names
have their maximal length, a multiport match counts no more ports than it has room
for, a chain that is built in has a policy, and a table is no larger than
its size can say.

An address or a mask is what `ntohl` makes of it.
-/

namespace SecurityAgent

/-- `IptablesResults`. -/
inductive IptablesResult where
  | ok
  | noData
  | iteratorHasNext
  | iteratorNoMoreItems
  | exception
  deriving DecidableEq, Repr

/-- `IptablesActionType`. -/
inductive IptablesActionType where
  | allow
  | deny
  | other
  deriving DecidableEq, Repr

/-- The name of a chain or a target, with its terminator in `XT_TABLE_MAXNAMELEN` bytes. -/
structure IptablesName where
  text : String
  length_lt : text.length < 32

/-- `struct xt_iprange_mtinfo`. -/
structure XtIprange where
  srcMin : UInt32
  srcMax : UInt32
  dstMin : UInt32
  dstMax : UInt32
  flags : UInt8

/-- `struct xt_tcp`, and `struct xt_udp`: the lowest and the highest port on either side. -/
structure XtPorts where
  spts : UInt16 × UInt16
  dpts : UInt16 × UInt16
  invflags : UInt8

/-- `XT_MULTI_PORTS`. -/
def XT_MULTI_PORTS : Nat := 15

/-- `struct xt_multiport`. Behind the ports that are counted an index may point anywhere. -/
structure XtMultiport where
  flags : UInt8
  count : UInt8
  ports : Nat → UInt16
  count_le : count.toNat ≤ XT_MULTI_PORTS

/-- `struct xt_multiport_v1`. -/
structure XtMultiportV1 extends XtMultiport where
  pflags : Nat → UInt8
  invert : UInt8

/-- The data of a multiport match, which the size of the match tells apart. -/
inductive MultiportData where
  | revision0 (info : XtMultiport)
  | revision1 (info : XtMultiportV1)
  | otherSize (flags : UInt8)

/-- The first byte of the data. -/
def MultiportData.flags : MultiportData → UInt8
  | .revision0 info => info.flags
  | .revision1 info => info.flags
  | .otherSize flags => flags

/-- `struct xt_entry_match`, by its name. -/
inductive EntryMatch where
  | iprange (info : XtIprange)
  | tcp (info : XtPorts)
  | udp (info : XtPorts)
  | multiport (data : MultiportData)
  | other (name : String)

/-- `struct ipt_entry`, with the matches before `target_offset` and the name of its target as
`iptc_get_target` gives it. -/
structure IptEntry where
  src : UInt32
  smsk : UInt32
  dst : UInt32
  dmsk : UInt32
  proto : UInt16
  flags : UInt8
  invflags : UInt8
  entryMatches : List EntryMatch
  target : Option IptablesName

/-- `sizeof(struct ipt_entry)`. -/
def sizeofIptEntry : Nat := 112

/-- A chain as libiptc hands it out. -/
structure IptablesChain where
  name : IptablesName
  /-- `iptc_builtin`. -/
  builtin : Bool
  /-- `iptc_get_policy`. -/
  policy : Option IptablesName
  rules : List IptEntry
  policy_of_builtin : builtin = true → policy.isSome = true
  /-- The size of a table is a 32-bit number. -/
  rules_fit : rules.length * sizeofIptEntry < 2 ^ 32

theorem IptablesChain.length_rules_lt (chain : IptablesChain) : chain.rules.length < 2 ^ 31 := by
  have hfit := chain.rules_fit
  unfold sizeofIptEntry at hfit
  omega

end SecurityAgent
