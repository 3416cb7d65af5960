import Paymaster.Main
import Paymaster.Session
import Paymaster.Proofs.TextForm
import Paymaster.Proofs.WireFormat
import Paymaster.Proofs.KeyTable
import Paymaster.Proofs.Recompile
import Paymaster.Proofs.Nesting
import Paymaster.Proofs.Calls
import Paymaster.Proofs.Payment
import Paymaster.Proofs.Replies
import Paymaster.Proofs.Sponsor
import Paymaster.Proofs.Appending
import Paymaster.Proofs.Limits
import Paymaster.Proofs.PaymentPaths
import Paymaster.Proofs.JsonText
import Paymaster.Proofs.SentRequests
import Paymaster.Proofs.Flow
import Paymaster.Proofs.Isolation
import Paymaster.Proofs.Delivery
import Paymaster.Proofs.Numbering
import Paymaster.Proofs.Secrets
import Paymaster.Proofs.Unpayable
import Paymaster.Proofs.WellFormed
import Paymaster.Proofs.Formats
import Paymaster.Proofs.SignaturePlaces
import Paymaster.Proofs.AddressText
import Paymaster.Proofs.Refusals
import Paymaster.Proofs.Records
import Paymaster.Proofs.UnknownMembers
import Paymaster.Proofs.AppendedTexts
import Paymaster.Proofs.Treatments
import Paymaster.Proofs.QuotedFee
import Paymaster.Proofs.CurveField
import Paymaster.Proofs.TokenAccounts
import Paymaster.Proofs.ConfigShape
import Paymaster.Proofs.Commands
import Paymaster.Proofs.PartialAnswers
import Paymaster.Proofs.AllOrNothing
