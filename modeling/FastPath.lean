import FastPath.CommandLine.Launch
import FastPath.ConnectionStream
import FastPath.Main
import FastPath.Platform.Trace
import FastPath.Proofs.Alerts
import FastPath.Proofs.Bindings
import FastPath.Proofs.Brackets
import FastPath.Proofs.Conservation
import FastPath.Proofs.Counts
import FastPath.Proofs.Deadlines
import FastPath.Proofs.Installation
import FastPath.Proofs.Limits
import FastPath.Proofs.Parity
import FastPath.Proofs.Pushes
import FastPath.Proofs.ShutDown
import FastPath.Proofs.Disabled
import FastPath.Proofs.Calls
import FastPath.Proofs.Digits
import FastPath.Proofs.JsonTokens
import FastPath.Proofs.JsonText
import FastPath.Proofs.Addresses
import FastPath.Proofs.Encoding
import FastPath.Proofs.Agreement
import FastPath.Proofs.Lines
import FastPath.Proofs.Feed
import FastPath.Proofs.FinalReadings
import FastPath.Proofs.Quotas
import FastPath.Proofs.Atomicity
import FastPath.Proofs.Bulk
import FastPath.Proofs.Enforcement
import FastPath.Proofs.Roles
import FastPath.Proofs.Lifetimes
import FastPath.Proofs.Leftovers
import FastPath.Proofs.Commutation
import FastPath.Proofs.Configurations
import FastPath.Proofs.Publications
import FastPath.Proofs.Octets
