import XdpNatd.Data.ByteBuffer

namespace XdpNatd.Ebpf

namespace EthHdr

def len : Nat := 14
def dstAddr (eth : Nat) : Nat := eth
def srcAddr (eth : Nat) : Nat := eth + 6
def etherType (eth : Nat) : Nat := eth + 12

end EthHdr

/-- The EtherType of IPv4 as it lies in memory, read as a native word. -/
def EtherType.ipv4 : UInt16 := Data.swap16 0x0800

namespace Ipv4Hdr

def len : Nat := 20
def vihl (ipv4 : Nat) : Nat := ipv4
def totLen (ipv4 : Nat) : Nat := ipv4 + 2
def frags (ipv4 : Nat) : Nat := ipv4 + 6
def proto (ipv4 : Nat) : Nat := ipv4 + 9
def check (ipv4 : Nat) : Nat := ipv4 + 10
def srcAddr (ipv4 : Nat) : Nat := ipv4 + 12
def dstAddr (ipv4 : Nat) : Nat := ipv4 + 16

end Ipv4Hdr

namespace UdpHdr

def len : Nat := 8
def src (udp : Nat) : Nat := udp
def dst (udp : Nat) : Nat := udp + 2
def check (udp : Nat) : Nat := udp + 6

end UdpHdr

inductive IpProto where
  | icmp
  | tcp
  | udp
  | other (number : UInt8)
deriving DecidableEq, Repr

def IpProto.ofByte (number : UInt8) : IpProto :=
  if number = 1 then .icmp else if number = 6 then .tcp else if number = 17 then .udp
  else .other number

def IpProto.toByte : IpProto → UInt8
  | .icmp => 1
  | .tcp => 6
  | .udp => 17
  | .other number => number

end XdpNatd.Ebpf
