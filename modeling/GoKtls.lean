import GoKtls.Basic
import GoKtls.Capability
import GoKtls.CryptoInfo
import GoKtls.Encoder
import GoKtls.Activation
import GoKtls.RecordIO
import GoKtls.File
import GoKtls.Splice
import GoKtls.SpliceSchedule
import GoKtls.MappedFile
import GoKtls.Conn
