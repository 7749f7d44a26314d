import Neighborhood.Main
import Neighborhood.Metrics.Endpoint
import Neighborhood.Netlink.Client
import Neighborhood.Route.Journal
import Neighborhood.Route.Memory
import Neighborhood.Segment
import Neighborhood.Proofs.Daemon.Acts
import Neighborhood.Proofs.Daemon.Regular
import Neighborhood.Proofs.Daemon.Advance
import Neighborhood.Proofs.Daemon.Watch
import Neighborhood.Proofs.Daemon.Eviction
import Neighborhood.Proofs.Packet.Reading
import Neighborhood.Proofs.Packet.RoundTrip
import Neighborhood.Proofs.Packet.Inversion
import Neighborhood.Proofs.Packet.Layout
import Neighborhood.Proofs.Packet.Prefix
import Neighborhood.Proofs.Daemon.Receipt
import Neighborhood.Proofs.Route
import Neighborhood.Proofs.Xid
import Neighborhood.Proofs.Daemon.Still
import Neighborhood.Proofs.Daemon.Routed
import Neighborhood.Proofs.Daemon.Replies
import Neighborhood.Proofs.Daemon.Speech
import Neighborhood.Proofs.Daemon.Spent
import Neighborhood.Proofs.Link.Storm
import Neighborhood.Proofs.Link.Recovery
import Neighborhood.Proofs.Daemon.Lesson
import Neighborhood.Proofs.Listing
import Neighborhood.Proofs.Daemon.Truth
import Neighborhood.Proofs.Link.Run
import Neighborhood.Proofs.Link.Discovery
import Neighborhood.Proofs.Daemon.Teaching
import Neighborhood.Proofs.Daemon.LastWord
import Neighborhood.Proofs.Daemon.Reflection
import Neighborhood.Proofs.Link.Transfer
import Neighborhood.Proofs.Daemon.Quiet
import Neighborhood.Route.Ledger
import Neighborhood.Proofs.Daemon.Work
import Neighborhood.Proofs.Daemon.Books
import Neighborhood.Proofs.Daemon.Census
import Neighborhood.Proofs.Daemon.MapRoutes
import Neighborhood.Proofs.Suspects
import Neighborhood.Proofs.Daemon.Balance
import Neighborhood.Proofs.Netlink.Layout
import Neighborhood.Proofs.Netlink.Replies
import Neighborhood.Proofs.Netlink.Dump
import Neighborhood.Proofs.Netlink.Requests
import Neighborhood.Proofs.Netlink.Receiver
import Neighborhood.Proofs.Netlink.Rejections
import Neighborhood.Proofs.Netlink.Reports
import Neighborhood.Proofs.Draws
import Neighborhood.Proofs.Daemon.Handover
import Neighborhood.Proofs.Daemon.Fanout
import Neighborhood.Proofs.Daemon.Survey
import Neighborhood.Proofs.Daemon.Withdrawal
import Neighborhood.Proofs.References
import Neighborhood.Proofs.Packet.Faults
import Neighborhood.Proofs.Route.Map
import Neighborhood.Proofs.Principal
import Neighborhood.Proofs.Turn
import Neighborhood.Proofs.Daemon.Counting
import Neighborhood.Proofs.Daemon.Turns
import Neighborhood.Proofs.Daemon.Standing
import Neighborhood.Proofs.Text.Fields
import Neighborhood.Proofs.Text.Numeral
import Neighborhood.Proofs.HwAddr
import Neighborhood.Proofs.HwAddr.Record
import Neighborhood.Proofs.Packet.Cursor
import Neighborhood.Proofs.Packet.Bounds
import Neighborhood.Proofs.Principal.Lines
