import AgentAllowance.Transition
import AgentAllowance.Lease
import AgentAllowance.Rows
import AgentAllowance.Checks
import AgentAllowance.Fields
import AgentAllowance.Json
import AgentAllowance.Payment
import AgentAllowance.ChallengeStore
import AgentAllowance.MerchantApp
import AgentAllowance.MerchantEffects
import AgentAllowance.MerchantLease
import AgentAllowance.MerchantClaim
import AgentAllowance.EvidenceStore
import AgentAllowance.SdkCalls
import AgentAllowance.SdkSystem
import AgentAllowance.SdkStore
import AgentAllowance.SdkTurns
import AgentAllowance.SdkInvariant
import AgentAllowance.RevokedAllowance
import AgentAllowance.ReceiptBinding
import AgentAllowance.ReconciledReceipt
import AgentAllowance.EvidenceKept
import AgentAllowance.SettledTurns
import AgentAllowance.SettledAttempt
import AgentAllowance.FetchFlow
import AgentAllowance.FetchPhases
import AgentAllowance.FetchInvariant
import AgentAllowance.KeptSettlements
import AgentAllowance.BlockedPayment
import AgentAllowance.Stellar
import AgentAllowance.AuthValidation
import AgentAllowance.DelegatedBinding
import AgentAllowance.PolicyManifest
import AgentAllowance.PolicyEvents
import AgentAllowance.ExactEvents
import AgentAllowance.EventExactness
import AgentAllowance.PolicyVerify
import AgentAllowance.SingleRule
import AgentAllowance.Facilitator
import AgentAllowance.PolicyLookups
import AgentAllowance.SimulationEvents
import AgentAllowance.FacilitatorVerify
import AgentAllowance.VerifyStages
import AgentAllowance.VerifiedPayment
import AgentAllowance.FailedLookup
import AgentAllowance.PolicySoundness
import AgentAllowance.AuthBuilding
import AgentAllowance.Registry
import AgentAllowance.OwnerHydration
import AgentAllowance.CreatedRule
import AgentAllowance.PromiseChain
import AgentAllowance.OwnerFunding
import AgentAllowance.FeeSource
import AgentAllowance.FeeSourceSequences
import AgentAllowance.PaidContent
import AgentAllowance.PaidSteps
import AgentAllowance.PaidUnlock
import AgentAllowance.AttemptRace
import AgentAllowance.PaymentStages
import AgentAllowance.AttemptWinners
import AgentAllowance.OnePayload
import AgentAllowance.Slots
import AgentAllowance.RecipientPolicy
import AgentAllowance.RecipientState
import AgentAllowance.WalletAdmin
import AgentAllowance.WalletSubmissions
import AgentAllowance.WalletConsistency
import AgentAllowance.WalletSent
import AgentAllowance.TransferEvents
import AgentAllowance.PaymentWindow
import AgentAllowance.ExactInvocation
import AgentAllowance.KeptReceipt
import AgentAllowance.CarriedHeader
import AgentAllowance.RedeemedPayment
import AgentAllowance.CallProgram
import AgentAllowance.RelayerArguments
import AgentAllowance.FacilitatorSettle
import AgentAllowance.SettlementRuns
import AgentAllowance.SubmittedPayment
import AgentAllowance.ConfirmedSettlement
import AgentAllowance.FailedTurns
import AgentAllowance.OtherTurns
import AgentAllowance.PaymentSteps
import AgentAllowance.FailedPayment
import AgentAllowance.Base64
import AgentAllowance.Utf8
import AgentAllowance.JsonText
import AgentAllowance.OwnerSession
import AgentAllowance.SessionCookie
import AgentAllowance.OwnerSessions
import AgentAllowance.AmountEncoding
import AgentAllowance.DelegateRole
import AgentAllowance.RelayerFormat
import AgentAllowance.TreasuryDeployment
import AgentAllowance.SourceAccounts
import AgentAllowance.PolicyProfiles
import AgentAllowance.CodeAttribution
import AgentAllowance.PaymentHeaders
import AgentAllowance.JsonWriter
import AgentAllowance.SqlTable
import AgentAllowance.Calls
import AgentAllowance.EvidenceColumns
import AgentAllowance.EvidenceHistory
import AgentAllowance.EntryCodes
import AgentAllowance.SignatureText
import AgentAllowance.WalletSignature
import AgentAllowance.DecimalNumeral
import AgentAllowance.Amounts
import AgentAllowance.OfferedPayment
import AgentAllowance.AcceptedAnswer
import AgentAllowance.SqlUpdate
import AgentAllowance.ChallengeColumns
import AgentAllowance.ProgramHandler
import AgentAllowance.RenderAdapter
import AgentAllowance.BuiltPayment
import AgentAllowance.PolicyAdmission
import AgentAllowance.HonestPayment
import AgentAllowance.InstalledTerms
import AgentAllowance.PluginRoutes
import AgentAllowance.RemoteFacilitator
import AgentAllowance.RemoteReceipt
import AgentAllowance.RuleArguments
import AgentAllowance.CreatedTerms
