import CertKeeper.Journal.Foreign
import CertKeeper.Proofs.Agreement.Contents
import CertKeeper.Proofs.Agreement.Credentials
import CertKeeper.Proofs.Agreement.Tenants
import CertKeeper.Proofs.Agreement.Unlocking
import CertKeeper.Proofs.Dispatch.Contexts
import CertKeeper.Proofs.Dispatch.Turns
import CertKeeper.Proofs.Encoding.Armour
import CertKeeper.Proofs.Encoding.Faults
import CertKeeper.Proofs.Files.Shape
import CertKeeper.Proofs.Keeper.Admission
import CertKeeper.Proofs.Keeper.Configured
import CertKeeper.Proofs.Keeper.Crowded
import CertKeeper.Proofs.Keeper.Leftover
import CertKeeper.Proofs.Keeper.Renewal
import CertKeeper.Proofs.Keeper.Run
import CertKeeper.Proofs.Keeper.Sharing
import CertKeeper.Proofs.Keeper.Stages
import CertKeeper.Proofs.Keeper.Undecided
import CertKeeper.Proofs.Keeper.Visits
import CertKeeper.Proofs.Keeper.Wary
import CertKeeper.Proofs.Keeper.Withdrawn
import CertKeeper.Proofs.Store.Directory.Atomic
import CertKeeper.Proofs.Store.Directory.Promise
import CertKeeper.Proofs.Store.Directory.RoundTrip
import CertKeeper.Provider
import CertKeeper.Store.Scripted
