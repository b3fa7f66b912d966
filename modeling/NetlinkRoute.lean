import NetlinkRoute.Common.Outcome
import NetlinkRoute.Common.Bytes
import NetlinkRoute.Common.Bits
import NetlinkRoute.Common.Emitter
import NetlinkRoute.Common.Select
import NetlinkRoute.Common.Enum
import NetlinkRoute.Common.Struct
import NetlinkRoute.Common.Utils
import NetlinkRoute.Common.ForEach
import NetlinkRoute.Common.Nlas
import NetlinkRoute.Common.Message
import NetlinkRoute.Common.Fitted
import NetlinkRoute.Common.Insert
import NetlinkRoute.Common.Carried
import NetlinkRoute.Common.Written
import NetlinkRoute.Common.Ends
import NetlinkRoute.Common.Framed
import NetlinkRoute.Common.Kinds
import NetlinkRoute.Common.Reference
import NetlinkRoute.Family
import NetlinkRoute.Route.Model.Header
import NetlinkRoute.Route.Model.Encap
import NetlinkRoute.Route.Model.Attribute
import NetlinkRoute.Route.Encap
import NetlinkRoute.Route.Mpls
import NetlinkRoute.Route.Multipath
import NetlinkRoute.Route.Order
import NetlinkRoute.Route.Seg6
import NetlinkRoute.Route.Recursion
import NetlinkRoute.Route.RoundTrip
import NetlinkRoute.Route.Uniform
import NetlinkRoute.Route.Message
import NetlinkRoute.Route.Safety
import NetlinkRoute.Neighbour.Model
import NetlinkRoute.Neighbour.Message
import NetlinkRoute.NeighbourTable
import NetlinkRoute.Nexthop
import NetlinkRoute.Nsid
import NetlinkRoute.Mdb
import NetlinkRoute.Mdb.Eattrs
import NetlinkRoute.Mdb.PassThrough
import NetlinkRoute.Mdb.Tree
import NetlinkRoute.Tunnel
import NetlinkRoute.Resend
import NetlinkRoute.Address
import NetlinkRoute.Rule
import NetlinkRoute.Link.Model.Header
import NetlinkRoute.Link.Model.Values
import NetlinkRoute.Link.Model.AfSpec
import NetlinkRoute.Link.Model.Sriov
import NetlinkRoute.Link.Model.Bridge
import NetlinkRoute.Link.Model.Bond
import NetlinkRoute.Link.Model.Kinds
import NetlinkRoute.Link.Model.Info
import NetlinkRoute.Link.Model.Attribute
import NetlinkRoute.Link.Leaves
import NetlinkRoute.Link.Recursion
import NetlinkRoute.Link.Safety
import NetlinkRoute.Link.RoundTrip.Bridge
import NetlinkRoute.Link.RoundTrip.Bond
import NetlinkRoute.Link.RoundTrip.Kinds
import NetlinkRoute.Link.RoundTrip.Values
import NetlinkRoute.Link.RoundTrip.Sriov
import NetlinkRoute.Link.RoundTrip.Info
import NetlinkRoute.Link.RoundTrip.Attribute
import NetlinkRoute.Link.ExtMask
import NetlinkRoute.Link.Grammar
import NetlinkRoute.Link.Message
import NetlinkRoute.Link.PhysId
import NetlinkRoute.Link.Sriov
import NetlinkRoute.Link.Defects
import NetlinkRoute.Link.Writable
import NetlinkRoute.Tc.Writable
import NetlinkRoute.Route.Writable
import NetlinkRoute.Link.Targets
import NetlinkRoute.Link.Tolerant
import NetlinkRoute.Tc.Model.Stats
import NetlinkRoute.Tc.Model.Action
import NetlinkRoute.Tc.Model.Options
import NetlinkRoute.Tc.Model.Message
import NetlinkRoute.Tc.Safety
import NetlinkRoute.Tc.RoundTrip.Action
import NetlinkRoute.Tc.RoundTrip.Options
import NetlinkRoute.Tc.ActionOrder
import NetlinkRoute.Tc.Selector
import NetlinkRoute.Tc.Message
import NetlinkRoute.Tc.ActionMessage
import NetlinkRoute.Message.Model
import NetlinkRoute.Message.Dispatch
import NetlinkRoute.Message.Uniform
import NetlinkRoute.Message.Transparent
import NetlinkRoute.Message.Peers
import NetlinkRoute.Message.Accepts
import NetlinkRoute.Message.Safety
import NetlinkRoute.Common.Sequence
import NetlinkRoute.Route.Written
import NetlinkRoute.Tc.Hops
import NetlinkRoute.Message.Relay
import NetlinkRoute.Common.Within
import NetlinkRoute.Message.Writable
import NetlinkRoute.Message.Sequence
import NetlinkRoute.Message.Unknown
import NetlinkRoute.Message.Frames
import NetlinkRoute.Message.Kinds
import NetlinkRoute.Message.Attributewise
import NetlinkRoute.Message.Failure
import NetlinkRoute.Message.Ports
import NetlinkRoute.Message.Hops
